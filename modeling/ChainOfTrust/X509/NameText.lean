import ChainOfTrust.X509.Name

/-!
# The text of a name

`Name.text` writes the sets from last to first with commas between them and the attributes of a set
with plus signs. An attribute whose type has a keyword and whose value is a valid string is
`KEYWORD=value` with the value escaped; any other is its identifier, `=#` and the hexadecimal
octets of the value's element.
-/

namespace ChainOfTrust.X509

set_option autoImplicit false

open Der (Element)

/-! ## Keywords -/

/-- The keywords of the directory attributes, by the arc that follows 2.5.4. -/
def directoryKeywords : List (Nat × String) :=
  [(0, "OBJECTCLASS"), (1, "ALIASEDOBJECTNAME"), (2, "KNOWLEDGEINFORMATION"), (3, "CN"), (4, "SN"),
    (5, "SERIALNUMBER"), (6, "C"), (7, "L"), (8, "ST"), (9, "STREET"), (10, "O"), (11, "OU"),
    (12, "TITLE"), (13, "DESCRIPTION"), (14, "SEARCHGUIDE"), (15, "BUSINESSCATEGORY"),
    (16, "POSTALADDRESS"), (17, "POSTALCODE"), (18, "POSTOFFICEBOX"),
    (19, "PHYSICALDELIVERYOFFICENAME"), (20, "TELEPHONENUMBER"), (21, "TELEXNUMBER"),
    (22, "TELETEXTERMINALIDENTIFIER"), (23, "FACSIMILETELEPHONENUMBER"), (24, "X121ADDRESS"),
    (25, "INTERNATIONALISDNNUMBER"), (26, "REGISTEREDADDRESS"), (27, "DESTINATIONINDICATOR"),
    (28, "PREFERREDDELIVERYMETHOD"), (29, "PRESENTATIONADDRESS"),
    (30, "SUPPORTEDAPPLICATIONCONTEXT"), (31, "MEMBER"), (32, "OWNER"), (33, "ROLEOCCUPANT"),
    (34, "SEEALSO"), (35, "USERPASSWORD"), (36, "USERCERTIFICATE"), (37, "CACERTIFICATE"),
    (38, "AUTHORITYREVOCATIONLIST"), (39, "CERTIFICATEREVOCATIONLIST"),
    (40, "CROSSCERTIFICATEPAIR"), (41, "NAME"), (42, "GIVENNAME"), (43, "INITIALS"),
    (44, "GENERATIONQUALIFIER"), (45, "X500UNIQUEIDENTIFIER"), (46, "DNQUALIFIER"),
    (47, "ENHANCEDSEARCHGUIDE"), (48, "PROTOCOLINFORMATION"), (49, "DISTINGUISHEDNAME"),
    (50, "UNIQUEMEMBER"), (51, "HOUSEIDENTIFIER"), (52, "SUPPORTEDALGORITHMS"),
    (53, "DELTAREVOCATIONLIST"), (54, "DMDNAME"), (65, "PSEUDONYM"), (72, "ID-AT-ROLE")]

def keywords : List (Oid × String) :=
  directoryKeywords.map (fun (n, k) => (Oid.ofArcs [2, 5, 4, n], k)) ++
    [(.ofArcs [0, 9, 2342, 19200300, 100, 1, 1], "UID"),
      (.ofArcs [0, 9, 2342, 19200300, 100, 1, 3], "MAIL"),
      (.ofArcs [0, 9, 2342, 19200300, 100, 1, 25], "DC"),
      (.ofArcs [0, 9, 2342, 19200300, 100, 1, 60], "JPEGPHOTO"),
      (.ofArcs [1, 2, 840, 113549, 1, 9, 1], "EMAIL"),
      (.ofArcs [1, 2, 840, 113549, 1, 1, 11], "SHA256WITHRSAENCRYPTION"),
      (.ofArcs [1, 3, 6, 1, 5, 5, 7, 3, 1], "ID-KP-SERVERAUTH"),
      (.ofArcs [2, 5, 29, 15], "ID-CE-KEYUSAGE"),
      (.ofArcs [2, 5, 29, 19], "ID-CE-BASICCONSTRAINTS")]

def keyword? (type : Oid) : Option String :=
  (keywords.find? fun p => p.1 = type).map (·.2)

/-! ## Values -/

/-- The text of a value of a string type that is shown as such. -/
def shownText? (e : Element) : Option String :=
  if e.tag = Der.Tag.teletexString then Bytes.ascii? e.content else matchedText? e

/-- A character inside a value. -/
def escapeChar (c : Char) : List Char :=
  if ['"', '+', ',', ';', '<', '>', '\\'].contains c then ['\\', c]
  else if c.toNat < 0x20 ∨ c.toNat = 0x7F then
    ['\\', Bytes.hexDigit (c.toNat / 16), Bytes.hexDigit c.toNat]
  else [c]

/-- What follows the first character; a space at the end is escaped. -/
def escapeRest : List Char → List Char
  | [] => []
  | [' '] => ['\\', ' ']
  | c :: rest => escapeChar c ++ escapeRest rest

/-- A value with its special characters escaped, also a number sign or a space in front. -/
def escape : List Char → List Char
  | '#' :: rest => '\\' :: '#' :: escapeRest rest
  | ' ' :: rest => '\\' :: ' ' :: escapeRest rest
  | s => escapeRest s

/-! ## Names -/

def Attribute.text (a : Attribute) : String :=
  match keyword? a.type, shownText? a.value with
  | some k, some v => k ++ "=" ++ String.ofList (escape v.toList)
  | _, _ => a.type.text ++ "=#" ++ Bytes.hex a.value.encode

def Name.text (n : Name) : String :=
  ",".intercalate (n.sets.reverse.map fun s => "+".intercalate (s.map Attribute.text))

end ChainOfTrust.X509
