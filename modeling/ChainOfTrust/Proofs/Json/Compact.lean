import ChainOfTrust.Json.Reader
import Mathlib.Tactic.SplitIfs

/-!
# Compact documents are read back

The writer escapes one character at a time and the reader takes one escape at a time, so a text goes
through by induction on its characters, whatever follows it. For values the fuel must outlast the
nesting and the members: a number above the length of the text is enough.

* `string?_flatMap_escapeChar` : a quoted text and what follows it;
* `Value.Plain` : a value without numbers, whose texts are texts;
* `value?_chars` : a plain value and what follows it;
* `parse?_render` : a whole document.
-/

namespace ChainOfTrust.Json

set_option autoImplicit false

/-! ## Escapes -/

theorem hexValue?_hexDigit (n : Nat) : hexValue? (hexDigit n) = some (n % 16) := by
  have hall : ∀ d < 16, hexValue? (Nat.digitChar d) = some d := by decide
  exact hall _ (Nat.mod_lt n (by decide))

theorem unit?_hexDigit {n : Nat} (hn : n < 256) :
    unit? '0' '0' (hexDigit (n / 16)) (hexDigit n) = some n := by
  have hzero : hexValue? '0' = some 0 := by decide
  unfold unit?
  rw [hexValue?_hexDigit, hexValue?_hexDigit, hzero]
  show some _ = some n
  congr 1
  omega

/-- The controls that have no letter of their own. -/
def isNumbered (c : Char) : Bool :=
  c.toNat < 0x20 && ! (['\x08', '\x0C', '\n', '\r', '\t'].contains c)

/-- The piece as which a character is written. -/
def Piece.ofChar (c : Char) : Piece := if isNumbered c then .unit c.toNat else .char c

theorem lt_of_isNumbered {c : Char} (hc : isNumbered c = true) : c.toNat < 0x20 := by
  unfold isNumbered at hc
  rw [Bool.and_eq_true, decide_eq_true_eq] at hc
  exact hc.1

theorem pieces?_shortEscape {e c : Char} (he : shortEscape? e = some c) (rest : List Char) :
    pieces? ('\\' :: e :: rest) = (pieces? rest).map fun (ps, after) => (.char c :: ps, after) := by
  have hu : e ≠ 'u' := by
    rintro rfl
    cases he
  rw [pieces?, he]
  · rcases pieces? rest with _ | ⟨ps, after⟩ <;> rfl
  · intro a b c d rest' h
    exact fun _ => (hu h).elim

theorem pieces?_unit {a b c d : Char} {n : Nat} (hn : unit? a b c d = some n) (rest : List Char) :
    pieces? ('\\' :: 'u' :: a :: b :: c :: d :: rest) =
      (pieces? rest).map fun (ps, after) => (.unit n :: ps, after) := by
  rw [pieces?, hn]
  rcases pieces? rest with _ | ⟨ps, after⟩ <;> rfl

theorem pieces?_plain {c : Char} (hquote : c ≠ '"') (hslash : c ≠ '\\') (hc : ¬ c.toNat < 0x20)
    (rest : List Char) :
    pieces? (c :: rest) = (pieces? rest).map fun (ps, after) => (.char c :: ps, after) := by
  rw [pieces?]
  · rw [if_neg (not_or.mpr ⟨hc, hslash⟩)]
    rcases pieces? rest with _ | ⟨ps, after⟩ <;> rfl
  · exact hquote
  · intro a b c d rest' h
    exact (hslash h).elim
  · intro e rest' h
    exact (hslash h).elim

theorem pieces?_escapeChar (c : Char) (rest : List Char) :
    pieces? (escapeChar c ++ rest) =
      (pieces? rest).map fun (ps, after) => (Piece.ofChar c :: ps, after) := by
  unfold escapeChar
  split_ifs with hquote hslash hb hf hn hr ht hcontrol
  · rw [hquote]; exact pieces?_shortEscape (by decide) rest
  · rw [hslash]; exact pieces?_shortEscape (by decide) rest
  · rw [hb]; exact pieces?_shortEscape (by decide) rest
  · rw [hf]; exact pieces?_shortEscape (by decide) rest
  · rw [hn]; exact pieces?_shortEscape (by decide) rest
  · rw [hr]; exact pieces?_shortEscape (by decide) rest
  · rw [ht]; exact pieces?_shortEscape (by decide) rest
  · have hnum : isNumbered c = true := by simp [isNumbered, *]
    rw [Piece.ofChar, if_pos hnum]
    exact pieces?_unit (unit?_hexDigit (by omega)) rest
  · have hnum : ¬ isNumbered c = true := by simp [isNumbered, hcontrol]
    rw [Piece.ofChar, if_neg hnum]
    exact pieces?_plain hquote hslash hcontrol rest

/-! ## Texts -/

theorem unpair_unit {n : Nat} (hhigh : isHigh n = false) (hlow : isLow n = false)
    (ps : List Piece) : unpair (.unit n :: ps) = (unpair ps).map (Char.ofNat n :: ·) := by
  match ps with
  | [] => simp [unpair, hhigh, hlow]
  | .char c :: ps => simp [unpair, hhigh, hlow]
  | .unit m :: ps => rw [unpair, hhigh, hlow]; rfl

theorem unpair_ofChar (s : List Char) : unpair (s.map Piece.ofChar) = some s := by
  induction s with
  | nil => rfl
  | cons c s ih =>
    rw [List.map_cons, Piece.ofChar]
    split
    · rename_i hnum
      have hc : c.toNat < 0x20 := lt_of_isNumbered hnum
      have hhigh : isHigh c.toNat = false := by simp [isHigh]; omega
      have hlow : isLow c.toNat = false := by simp [isLow]; omega
      rw [unpair_unit hhigh hlow, ih, Option.map_some, Char.ofNat_toNat]
    · rw [unpair, ih, Option.map_some]

theorem pieces?_flatMap_escapeChar (s rest : List Char) :
    pieces? (s.flatMap escapeChar ++ '"' :: rest) = some (s.map Piece.ofChar, rest) := by
  induction s with
  | nil => rfl
  | cons c s ih =>
    rw [List.flatMap_cons, List.append_assoc, pieces?_escapeChar, ih]
    rfl

theorem string?_flatMap_escapeChar (s : String) (rest : List Char) :
    string? (s.toList.flatMap escapeChar ++ '"' :: rest) = some (some s, rest) := by
  unfold string?
  rw [pieces?_flatMap_escapeChar]
  show some ((unpair (s.toList.map Piece.ofChar)).map String.ofList, rest) = _
  rw [unpair_ofChar, Option.map_some, String.ofList_toList]

/-! ## Values -/

mutual

/-- The value has no number in it, and each of its texts is one. -/
def Value.Plain : Value → Prop
  | .null => True
  | .bool _ => True
  | .number _ => False
  | .text s => s.isSome
  | .array items => Value.AllPlain items
  | .object members => Value.MembersPlain members

def Value.AllPlain : List Value → Prop
  | [] => True
  | v :: rest => v.Plain ∧ Value.AllPlain rest

def Value.MembersPlain : List (Option String × Value) → Prop
  | [] => True
  | (k, v) :: rest => k.isSome ∧ v.Plain ∧ Value.MembersPlain rest

end

open Value

theorem skipBlanks_cons {c : Char} (hc : isBlank c = false) (s : List Char) :
    skipBlanks (c :: s) = c :: s := by
  unfold skipBlanks
  rw [List.dropWhile_cons, hc]
  rfl

/-- What a plain value starts with is not taken for a blank or a closing bracket. -/
theorem exists_chars_eq_cons {v : Value} (hv : v.Plain) :
    ∃ c s, v.chars = c :: s ∧ isBlank c = false ∧ c ≠ ']' := by
  cases v with
  | null => exact ⟨'n', _, rfl, by decide, by decide⟩
  | bool b => cases b <;> exact ⟨_, _, rfl, by decide, by decide⟩
  | number literal => exact hv.elim
  | text s => exact ⟨'"', _, rfl, by decide, by decide⟩
  | array items => exact ⟨'[', _, rfl, by decide, by decide⟩
  | object members => exact ⟨'\x7b', _, rfl, by decide, by decide⟩

theorem exists_itemChars_eq_cons {v : Value} (hv : v.Plain) (vs : List Value) :
    ∃ c s, itemChars (v :: vs) = c :: s ∧ isBlank c = false ∧ c ≠ ']' := by
  obtain ⟨c, s, hs, hc⟩ := exists_chars_eq_cons hv
  cases vs with
  | nil => exact ⟨c, s, hs, hc⟩
  | cons w vs => exact ⟨c, s ++ ',' :: itemChars (w :: vs), by simp [itemChars, hs], hc⟩

theorem exists_memberChars_eq_cons (k : Option String) (v : Value)
    (ms : List (Option String × Value)) : ∃ s, memberChars ((k, v) :: ms) = '"' :: s := by
  cases ms with
  | nil => exact ⟨_, rfl⟩
  | cons m ms =>
    have hcomma : memberChars ((k, v) :: m :: ms) =
        quoted (k.getD "") ++ ':' :: v.chars ++ ',' :: memberChars (m :: ms) := by
      simp [memberChars]
    exact ⟨_, hcomma⟩

section

variable {fuel : Nat} {s s' rest : List Char} {v : Value}

theorem value?_array {vs : List Value} {c : Char} (hc : isBlank c = false) (hne : c ≠ ']')
    (hs : items? fuel (c :: s) = some (vs, rest)) :
    value? (fuel + 1) ('[' :: c :: s) = some (.array vs, rest) := by
  simp only [value?, skipBlanks_cons (show isBlank '[' = false by decide), skipBlanks_cons hc]
  split
  · rename_i h
    exact (hne (List.cons.inj h).1).elim
  · rw [hs]
    rfl

theorem value?_object {ms : List (Option String × Value)}
    (hs : members? fuel ('"' :: s) = some (ms, rest)) :
    value? (fuel + 1) ('\x7b' :: '"' :: s) = some (.object ms, rest) := by
  simp only [value?, skipBlanks_cons (show isBlank '\x7b' = false by decide),
    skipBlanks_cons (show isBlank '"' = false by decide)]
  show (members? fuel ('"' :: s)).map _ = _
  rw [hs]
  rfl

theorem items?_last (hs : value? fuel s = some (v, ']' :: rest)) :
    items? (fuel + 1) s = some ([v], rest) := by
  rw [items?, hs]
  rfl

theorem items?_cons {vs : List Value} (hs : value? fuel s = some (v, ',' :: s'))
    (hs' : items? fuel s' = some (vs, rest)) :
    items? (fuel + 1) s = some (v :: vs, rest) := by
  rw [items?, hs]
  show (items? fuel s').map _ = _
  rw [hs']
  rfl

theorem members?_last (k : String) (hs : value? fuel s = some (v, '\x7d' :: rest)) :
    members? (fuel + 1) (quoted k ++ ':' :: s) = some ([(some k, v)], rest) := by
  have hk : quoted k ++ ':' :: s = '"' :: (k.toList.flatMap escapeChar ++ '"' :: ':' :: s) := by
    simp [quoted]
  rw [hk, members?, skipBlanks_cons (by decide)]
  show (string? _ >>= fun x => _) = _
  rw [string?_flatMap_escapeChar]
  show (value? fuel s >>= fun x => _) = _
  rw [hs]
  rfl

theorem members?_cons (k : String) {ms : List (Option String × Value)}
    (hs : value? fuel s = some (v, ',' :: s')) (hs' : members? fuel s' = some (ms, rest)) :
    members? (fuel + 1) (quoted k ++ ':' :: s) = some ((some k, v) :: ms, rest) := by
  have hk : quoted k ++ ':' :: s = '"' :: (k.toList.flatMap escapeChar ++ '"' :: ':' :: s) := by
    simp [quoted]
  rw [hk, members?, skipBlanks_cons (by decide)]
  show (string? _ >>= fun x => _) = _
  rw [string?_flatMap_escapeChar]
  show (value? fuel s >>= fun x => _) = _
  rw [hs]
  show (members? fuel s').map _ = _
  rw [hs']
  rfl

end


-- One case a constructor; the fuel left after a step still exceeds the text left.
mutual

theorem value?_chars : (v : Value) → v.Plain → (fuel : Nat) → v.chars.length < fuel →
    (rest : List Char) → value? fuel (v.chars ++ rest) = some (v, rest)
  | _, _, 0, hfuel, _ => (Nat.not_lt_zero _ hfuel).elim
  | .null, _, fuel + 1, _, rest => by simp [chars, value?, skipBlanks, isBlank]
  | .bool true, _, fuel + 1, _, rest => by simp [chars, value?, skipBlanks, isBlank]
  | .bool false, _, fuel + 1, _, rest => by simp [chars, value?, skipBlanks, isBlank]
  | .number _, hv, _, _, _ => hv.elim
  | .text none, hv, _, _, _ => by cases hv
  | .text (some s), _, fuel + 1, _, rest => by
    have hs : (Value.text (some s)).chars ++ rest =
        '"' :: (s.toList.flatMap escapeChar ++ '"' :: rest) := by
      simp [chars, quoted]
    rw [hs, value?, skipBlanks_cons (by decide)]
    simp only
    rw [string?_flatMap_escapeChar]
    rfl
  | .array [], _, fuel + 1, _, rest => by simp [chars, itemChars, value?, skipBlanks, isBlank]
  | .array (v :: vs), hv, fuel + 1, hfuel, rest => by
    have hlength : (itemChars (v :: vs)).length + 1 < fuel := by
      simp only [chars, List.length_cons, List.length_append, List.length_nil] at hfuel
      omega
    have hitems := items?_itemChars v vs hv fuel hlength rest
    obtain ⟨c, s, hs, hc, hne⟩ := exists_itemChars_eq_cons hv.1 vs
    rw [chars, List.cons_append, List.cons_append, List.append_assoc, hs]
    rw [hs] at hitems
    exact value?_array hc hne hitems
  | .object [], _, fuel + 1, _, rest => by simp [chars, memberChars, value?, skipBlanks, isBlank]
  | .object ((k, v) :: ms), hv, fuel + 1, hfuel, rest => by
    have hlength : (memberChars ((k, v) :: ms)).length + 1 < fuel := by
      simp only [chars, List.length_cons, List.length_append, List.length_nil] at hfuel
      omega
    have hmembers := members?_memberChars k v ms hv fuel hlength rest
    obtain ⟨s, hs⟩ := exists_memberChars_eq_cons k v ms
    rw [chars, List.cons_append, List.cons_append, List.append_assoc, hs]
    rw [hs] at hmembers
    exact value?_object hmembers

theorem items?_itemChars : (v : Value) → (vs : List Value) → AllPlain (v :: vs) → (fuel : Nat) →
    (itemChars (v :: vs)).length + 1 < fuel → (rest : List Char) →
    items? fuel (itemChars (v :: vs) ++ ']' :: rest) = some (v :: vs, rest)
  | _, _, _, 0, hfuel, _ => (Nat.not_lt_zero _ hfuel).elim
  | v, [], hv, fuel + 1, hfuel, rest => by
    rw [itemChars] at hfuel ⊢
    exact items?_last (value?_chars v hv.1 fuel (by omega) (']' :: rest))
  | v, w :: vs, hv, fuel + 1, hfuel, rest => by
    have hcomma : itemChars (v :: w :: vs) = v.chars ++ ',' :: itemChars (w :: vs) := by
      simp [itemChars]
    rw [hcomma, List.length_append, List.length_cons] at hfuel
    rw [hcomma, List.append_assoc]
    exact items?_cons (value?_chars v hv.1 fuel (by omega) _)
      (items?_itemChars w vs hv.2 fuel (by omega) rest)

theorem members?_memberChars : (k : Option String) → (v : Value) →
    (ms : List (Option String × Value)) → MembersPlain ((k, v) :: ms) → (fuel : Nat) →
    (memberChars ((k, v) :: ms)).length + 1 < fuel → (rest : List Char) →
    members? fuel (memberChars ((k, v) :: ms) ++ '\x7d' :: rest) = some ((k, v) :: ms, rest)
  | _, _, _, _, 0, hfuel, _ => (Nat.not_lt_zero _ hfuel).elim
  | none, _, _, hv, _ + 1, _, _ => by cases hv.1
  | some k, v, [], hv, fuel + 1, hfuel, rest => by
    rw [memberChars] at hfuel ⊢
    rw [List.length_append, List.length_cons] at hfuel
    rw [List.append_assoc]
    exact members?_last k (value?_chars v hv.2.1 fuel (by omega) ('\x7d' :: rest))
  | some k, v, (l, w) :: ms, hv, fuel + 1, hfuel, rest => by
    have hcomma : memberChars ((some k, v) :: (l, w) :: ms) =
        quoted k ++ ':' :: (v.chars ++ ',' :: memberChars ((l, w) :: ms)) := by
      simp [memberChars]
    rw [hcomma, List.length_append, List.length_cons, List.length_append, List.length_cons]
      at hfuel
    rw [hcomma, List.append_assoc, List.cons_append, List.append_assoc]
    exact members?_cons k (value?_chars v hv.2.1 fuel (by omega) _)
      (members?_memberChars l w ms hv.2.2 fuel (by omega) rest)

end

/-- **The compact form of a plain value is read back.** -/
theorem parse?_render {v : Value} (hv : v.Plain) : parse? v.render.toList = some v := by
  have hvalue := value?_chars v hv (2 * v.chars.length + 2) (by omega) []
  rw [List.append_nil] at hvalue
  unfold parse? Value.render
  rw [String.toList_ofList, hvalue]
  rfl

end ChainOfTrust.Json
