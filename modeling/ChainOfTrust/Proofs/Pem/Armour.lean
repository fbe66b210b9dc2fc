import ChainOfTrust.Pem.Block
import ChainOfTrust.Proofs.Pem.Base64
import ChainOfTrust.Proofs.Pem.Scan
import ChainOfTrust.Proofs.Text.Utf8
import Mathlib.Data.List.Chain
import Mathlib.Data.List.TakeWhile

/-!
# Files of armoured blocks

How blocks are written, and that they are read back.

* `Lines` : a text in lines of any length but zero, each with a break of its own, LF or CRLF;
* `Armour` : a block between its `BEGIN` and `END` lines;
* `Written` : a file of blocks, with any octets but dashes before, between and after them;
* `Frame.next?_armour`, `Block.ofFrame_armour` : the frame of an armoured block, and the block of it;
* `Armour.unfinished` : a block that is cut off is no block;
* `Block.all_cons`, `Block.all_of_next` : the blocks of a text from its first frame;
* `Block.all_of_written`, `Block.all_of_written_append` : the blocks of a file, and of one with a block
  cut off at its end;
* `Block.armour` : the usual way to write a block, in lines of 64 characters.
-/

namespace ChainOfTrust.Pem

set_option autoImplicit false

def dash : UInt8 := 0x2D

def lineFeed : UInt8 := 0x0A

def carriageReturn : UInt8 := 0x0D

def IsLineBreak (e : Bytes) : Prop := e = [lineFeed] ∨ e = [carriageReturn, lineFeed]

inductive Lines : List Char → Bytes → Prop where
  | nil : Lines [] []
  | cons {line s : List Char} {e b : Bytes} : line ≠ [] → IsLineBreak e → Lines s b →
      Lines (line ++ s) (line.flatMap String.utf8EncodeChar ++ (e ++ b))

/-- A block with its label on both lines; what ends the last line is left to what follows. -/
inductive Armour (b : Block) : Bytes → Prop where
  | intro {e body : Bytes} : b.label ≠ "" → '-' ∉ b.label.toList → IsLineBreak e →
      Lines (Base64.encode b.content) body →
      Armour b (beginMarker ++ (Text.octets b.label ++ (dashes ++ (e ++ (body ++
        (endMarker ++ (Text.octets b.label ++ dashes)))))))

inductive Written : List Block → Bytes → Prop where
  | text {gap : Bytes} : dash ∉ gap → Written [] gap
  | block {gap a rest : Bytes} {b : Block} {bs : List Block} : dash ∉ gap → Armour b a →
      Written bs rest → Written (b :: bs) (gap ++ (a ++ rest))

/-! ## Lines of base64 -/

/-- What the characters of base64 are not. -/
structure IsPlainOctet (x : UInt8) : Prop where
  ne_dash : x ≠ dash
  ne_lineFeed : x ≠ lineFeed
  ne_carriageReturn : x ≠ carriageReturn
  not_gap : isGap x = false

def IsPlain (c : Char) : Prop :=
  Text.isBlank c = false ∧ ∃ x, String.utf8EncodeChar c = [x] ∧ IsPlainOctet x

theorem isPlain_of_mem {c : Char} (hc : c ∈ '=' :: Base64.alphabet) : IsPlain c := by
  have hall : ('=' :: Base64.alphabet).all (fun c => decide (Text.isBlank c = false ∧
      String.utf8EncodeChar c = [UInt8.ofNat c.toNat] ∧ UInt8.ofNat c.toNat ≠ dash ∧
      UInt8.ofNat c.toNat ≠ lineFeed ∧ UInt8.ofNat c.toNat ≠ carriageReturn ∧
      isGap (UInt8.ofNat c.toNat) = false)) = true := by
    decide
  obtain ⟨hblank, hoctet, hdash, hfeed, hreturn, hgap⟩ :=
    of_decide_eq_true (List.all_eq_true.mp hall c hc)
  exact ⟨hblank, _, hoctet, hdash, hfeed, hreturn, hgap⟩

theorem isPlainOctet_of_mem {line : List Char} (hline : ∀ c ∈ line, IsPlain c) {x : UInt8}
    (hx : x ∈ line.flatMap String.utf8EncodeChar) : IsPlainOctet x := by
  obtain ⟨c, hc, hxc⟩ := List.mem_flatMap.mp hx
  obtain ⟨-, y, hy, hplain⟩ := hline c hc
  rw [hy, List.mem_singleton] at hxc
  exact hxc ▸ hplain

theorem exists_octet_of_ne_nil {line : List Char} (hline : ∀ c ∈ line, IsPlain c)
    (hne : line ≠ []) : ∃ x t, line.flatMap String.utf8EncodeChar = x :: t ∧ IsPlainOctet x := by
  cases line with
  | nil => exact (hne rfl).elim
  | cons c line =>
    obtain ⟨-, x, hx, hplain⟩ := hline c List.mem_cons_self
    exact ⟨x, line.flatMap String.utf8EncodeChar, by rw [List.flatMap_cons, hx]; rfl, hplain⟩

/-- A line feed is not followed by another break. -/
def NoEmptyLine (b : Bytes) : Prop :=
  b.IsChain fun x y => x = lineFeed → y ≠ lineFeed ∧ y ≠ carriageReturn

namespace Lines

variable {s : List Char} {body : Bytes}

theorem exists_chars (h : Lines s body) (hs : ∀ c ∈ s, IsPlain c) :
    ∃ cs : List Char, body = cs.flatMap String.utf8EncodeChar ∧
      (cs.filter fun c => !Text.isBlank c) = s := by
  induction h with
  | nil => exact ⟨[], rfl, rfl⟩
  | @cons line s e b hne he hb ih =>
    obtain ⟨cs, rfl, hcs⟩ := ih fun c hc => hs c (List.mem_append_right _ hc)
    have hline : (line.filter fun c => !Text.isBlank c) = line :=
      List.filter_eq_self.mpr fun c hc => by
        rw [(hs c (List.mem_append_left _ hc)).1]
        rfl
    have hbreak : ∃ es : List Char, e = es.flatMap String.utf8EncodeChar ∧
        (es.filter fun c => !Text.isBlank c) = [] := by
      rcases he with rfl | rfl
      · exact ⟨['\n'], by decide, by decide⟩
      · exact ⟨['\r', '\n'], by decide, by decide⟩
    obtain ⟨es, rfl, hes⟩ := hbreak
    refine ⟨line ++ (es ++ cs), ?_, ?_⟩
    · rw [List.flatMap_append, List.flatMap_append]
    · rw [List.filter_append, List.filter_append, hline, hes, hcs, List.nil_append]

theorem dash_notMem (h : Lines s body) (hs : ∀ c ∈ s, IsPlain c) : dash ∉ body := by
  induction h with
  | nil => exact List.not_mem_nil
  | @cons line s e b hne he hb ih =>
    intro hmem
    rcases List.mem_append.mp hmem with hmem | hmem
    · exact (isPlainOctet_of_mem (fun c hc => hs c (List.mem_append_left _ hc)) hmem).ne_dash rfl
    · rcases List.mem_append.mp hmem with hmem | hmem
      · rcases he with rfl | rfl
        · exact absurd hmem (by decide)
        · exact absurd hmem (by decide)
      · exact ih (fun c hc => hs c (List.mem_append_right _ hc)) hmem

/-- It starts with the first character of its first line. -/
theorem eq_nil_or_exists_octet (h : Lines s body) (hs : ∀ c ∈ s, IsPlain c) :
    body = [] ∨ ∃ x t, body = x :: t ∧ IsPlainOctet x := by
  cases h with
  | nil => exact .inl rfl
  | @cons line s e b hne he hb =>
    obtain ⟨x, t, hx, hplain⟩ :=
      exists_octet_of_ne_nil (fun c hc => hs c (List.mem_append_left _ hc)) hne
    exact .inr ⟨x, t ++ (e ++ b), by rw [hx]; rfl, hplain⟩

theorem noEmptyLine (h : Lines s body) (hs : ∀ c ∈ s, IsPlain c) : NoEmptyLine body := by
  induction h with
  | nil => exact .nil
  | @cons line s e b hne he hb ih =>
    have hplain : ∀ c ∈ s, IsPlain c := fun c hc => hs c (List.mem_append_right _ hc)
    have hrest : NoEmptyLine (lineFeed :: b) := by
      rcases eq_nil_or_exists_octet hb hplain with rfl | ⟨x, t, rfl, hx⟩
      · exact .singleton _
      · exact .cons_cons (fun _ => ⟨hx.ne_lineFeed, hx.ne_carriageReturn⟩) (ih hplain)
    have hbreak : NoEmptyLine (e ++ b) := by
      rcases he with rfl | rfl
      · exact hrest
      · exact .cons_cons (fun h => absurd h (by decide)) hrest
    have hno : ∀ x ∈ line.flatMap String.utf8EncodeChar, x ≠ lineFeed := fun x hx =>
      (isPlainOctet_of_mem (fun c hc => hs c (List.mem_append_left _ hc)) hx).ne_lineFeed
    have hline : ∀ t : Bytes, (∀ x ∈ t, x ≠ lineFeed) → NoEmptyLine (t ++ (e ++ b)) := by
      intro t ht
      induction t with
      | nil => exact hbreak
      | cons x t iht =>
        have hx : x ≠ lineFeed := ht x List.mem_cons_self
        refine List.IsChain.cons (iht fun y hy => ht y (List.mem_cons_of_mem _ hy)) ?_
        exact fun y _ h => (hx h).elim
    exact hline _ hno

end Lines

theorem NoEmptyLine.split_eq {body : Bytes} (h : NoEmptyLine body) :
    Frame.split body = ([], body) := by
  have hfeeds : seek [0x0A, 0x0A] body = none := by
    rw [Option.eq_none_iff_forall_ne_some]
    rintro ⟨before, after⟩ hseek
    rw [eq_of_seek (by decide) hseek, List.append_assoc] at h
    exact ((List.isChain_append_cons_cons.mp h).2.1 rfl).1 rfl
  have hreturns : seek [0x0D, 0x0A, 0x0D, 0x0A] body = none := by
    rw [Option.eq_none_iff_forall_ne_some]
    rintro ⟨before, after⟩ hseek
    have hsplit : body = (before ++ [0x0D]) ++ 0x0A :: 0x0D :: (0x0A :: after) := by
      rw [eq_of_seek (by decide) hseek]
      simp
    unfold NoEmptyLine at h
    rw [hsplit] at h
    exact ((List.isChain_append_cons_cons.mp h).2.1 rfl).2 rfl
  unfold Frame.split
  rw [hfeeds, hreturns]
  rfl

/-! ## Frames -/

theorem beginMarker_eq : beginMarker = dash :: beginMarker.tail := by decide

theorem endMarker_eq : endMarker = dash :: endMarker.tail := by decide

theorem dashes_eq : dashes = dash :: dashes.tail := by decide

variable {a pre rest s : Bytes} {b : Block} {bs : List Block}

theorem seek_beginMarker (h : dash ∉ pre) (s : Bytes) :
    seek beginMarker (pre ++ (beginMarker ++ s)) = some (pre, s) := by
  rw [beginMarker_eq]
  exact seek_of_notMem h

theorem seek_endMarker (h : dash ∉ pre) (s : Bytes) :
    seek endMarker (pre ++ (endMarker ++ s)) = some (pre, s) := by
  rw [endMarker_eq]
  exact seek_of_notMem h

theorem seek_dashes (h : dash ∉ pre) (s : Bytes) :
    seek dashes (pre ++ (dashes ++ s)) = some (pre, s) := by
  rw [dashes_eq]
  exact seek_of_notMem h

theorem dash_notMem_octets {t : String} (h : '-' ∉ t.toList) : dash ∉ Text.octets t := by
  intro hmem
  have hchar : Bytes.charOf dash = '-' := by decide
  exact h (hchar ▸ Bytes.charOf_mem_of_mem_octets hmem (by decide))

theorem dropWhile_isGap_dash (s : Bytes) : (dash :: s).dropWhile isGap = dash :: s :=
  List.dropWhile_cons_of_neg (by decide)

/-- After the `BEGIN` line nothing is left out but its break. -/
theorem Lines.dropWhile_eq {e body : Bytes} {t : List Char} (he : IsLineBreak e)
    (h : Lines t body) (ht : ∀ c ∈ t, IsPlain c) (s : Bytes) :
    (e ++ (body ++ (endMarker ++ s))).dropWhile isGap = body ++ (endMarker ++ s) := by
  have hgap : ∀ x ∈ e, isGap x = true := by
    rcases he with rfl | rfl
    · exact List.all_eq_true.mp rfl
    · exact List.all_eq_true.mp rfl
  rw [List.dropWhile_append_of_pos hgap]
  rcases h.eq_nil_or_exists_octet ht with rfl | ⟨x, u, rfl, hx⟩
  · rw [endMarker_eq]
    exact dropWhile_isGap_dash _
  · rw [List.cons_append]
    exact List.dropWhile_cons_of_neg (by rw [hx.not_gap]; decide)

theorem Frame.next?_armour (hpre : dash ∉ pre) (ha : Armour b a) (rest : Bytes) :
    ∃ body, Lines (Base64.encode b.content) body ∧ b.label ≠ "" ∧
      next? (pre ++ (a ++ rest)) =
        some (⟨Text.octets b.label, body, Text.octets b.label⟩, rest.dropWhile isGap) := by
  obtain ⟨hlabel, hchars, he, hlines⟩ := ha
  rename_i e body
  have hdash : dash ∉ Text.octets b.label := dash_notMem_octets hchars
  have hplain : ∀ c ∈ Base64.encode b.content, IsPlain c := fun c hc =>
    isPlain_of_mem (Base64.mem_encode hc)
  have hbegin := seek_beginMarker hpre (Text.octets b.label ++ (dashes ++ (e ++ (body ++
    (endMarker ++ (Text.octets b.label ++ (dashes ++ rest)))))))
  have hopening := seek_dashes hdash (e ++ (body ++
    (endMarker ++ (Text.octets b.label ++ (dashes ++ rest)))))
  have hpayload := seek_endMarker (hlines.dash_notMem hplain)
    (Text.octets b.label ++ (dashes ++ rest))
  rw [← hlines.dropWhile_eq he hplain] at hpayload
  have hclosing := seek_dashes hdash rest
  simp only [List.append_assoc]
  exact ⟨body, hlines, hlabel, next?_eq_some_iff.mpr
    ⟨pre, _, _, _, rest, hbegin, hopening, hpayload, hclosing, rfl⟩⟩

theorem Armour.eq_cons (ha : Armour b a) : ∃ t, a = dash :: t := by
  obtain ⟨-, -, -, -⟩ := ha
  exact ⟨_, by rw [beginMarker_eq]; rfl⟩

/-- Blanks in front of a file of blocks are text like any other. -/
theorem Written.dropWhile (h : Written bs s) : Written bs (s.dropWhile isGap) := by
  have hnot {gap : Bytes} (hgap : dash ∉ gap) : dash ∉ gap.dropWhile isGap := fun hmem =>
    hgap ((List.dropWhile_sublist _).subset hmem)
  cases h with
  | text hgap => exact .text (hnot hgap)
  | @block gap a rest b bs hgap ha hrest =>
    rw [List.dropWhile_append]
    split
    · obtain ⟨t, rfl⟩ := ha.eq_cons
      rw [List.cons_append, dropWhile_isGap_dash]
      exact @Written.block [] _ _ _ _ List.not_mem_nil ha hrest
    · exact .block (hnot hgap) ha hrest

theorem Frame.next?_of_notMem (h : dash ∉ s) : next? s = none := by
  have hseek : seek beginMarker s = none := by
    rw [beginMarker_eq]
    exact seek_eq_none_of_notMem h
  unfold next?
  rw [hseek]
  rfl

/-! ## The beginning of a block -/

/-- Text in which no block is whole, whatever text without dashes stands before it. -/
structure Unfinished (c : Bytes) : Prop where
  dropWhile_eq : c.dropWhile isGap = c
  next? : ∀ gap, dash ∉ gap → Frame.next? (gap ++ c) = none

theorem Unfinished.nil : Unfinished [] where
  dropWhile_eq := rfl
  next? gap hgap := by
    rw [List.append_nil]
    exact Frame.next?_of_notMem hgap

theorem Unfinished.dropWhile_append {c : Bytes} (hc : Unfinished c) (s : Bytes) :
    (s ++ c).dropWhile isGap = s.dropWhile isGap ++ c := by
  rw [List.dropWhile_append]
  split
  · rename_i hempty
    rw [hc.dropWhile_eq, List.isEmpty_iff.mp hempty, List.nil_append]
  · rfl

theorem Armour.eq_concat (ha : Armour b a) : ∃ t, a = t ++ [dash] := by
  obtain ⟨-, -, -, -⟩ := ha
  have hdashes : dashes = dashes.dropLast ++ [dash] := by decide
  simp only [← List.append_assoc]
  rw [hdashes, ← List.append_assoc]
  exact ⟨_, rfl⟩

/-- A block that is cut off anywhere, be it before its last dash, is none. -/
theorem Armour.unfinished {c : Bytes} (ha : Armour b a) (hc : c <+: a) (hne : c ≠ a) :
    Unfinished c := by
  obtain ⟨d, rfl⟩ := hc
  have hd : d ≠ [] := by
    rintro rfl
    exact hne (List.append_nil c).symm
  constructor
  · cases c with
    | nil => rfl
    | cons x c =>
      obtain ⟨t, ht⟩ := ha.eq_cons
      rw [(List.cons.inj ht).1]
      exact dropWhile_isGap_dash c
  · intro gap hgap
    rcases hnext : Frame.next? (gap ++ c) with _ | ⟨f, rest⟩
    · rfl
    · obtain ⟨u, hu⟩ := Frame.next?_append hnext
      obtain ⟨body, -, -, hwhole⟩ := Frame.next?_armour hgap ha []
      have hsame := hu d
      rw [List.append_assoc, ← List.append_nil (c ++ d), hwhole] at hsame
      obtain ⟨-, hrest⟩ := Prod.mk.inj (Option.some.inj hsame)
      -- All that is missing would be blanks, but the last of it is a dash.
      obtain ⟨t, ht⟩ := ha.eq_concat
      have hlast : dash ∈ d := by
        have hget : (c ++ d).getLast? = some dash := by
          rw [ht, List.getLast?_concat]
        rw [List.getLast?_append, List.getLast?_eq_some_getLast hd, Option.some_or] at hget
        exact Option.some.inj hget ▸ List.getLast_mem hd
      have hgaps : ∀ x ∈ u ++ d, isGap x = true := List.dropWhile_eq_nil_iff.mp hrest.symm
      exact absurd (hgaps dash (List.mem_append_right u hlast)) (by decide)

/-! ## Blocks -/

theorem readText_octets (t : String) : readText (Text.octets t) = .ok t := by
  unfold readText
  rw [Bytes.utf8?_eq_some_iff.mpr rfl]

theorem readLabel_octets {missing : PemFault} {label : String} (h : label ≠ "") :
    readLabel missing (Text.octets label) = .ok label := by
  unfold readLabel
  rw [readText_octets]
  show (if label.isEmpty then _ else _) = _
  rw [if_neg (mt String.isEmpty_iff.mp h)]

theorem readContent_of_readText {data : Bytes} {t : String} (h : readText data = .ok t) :
    readContent data =
      (Base64.decode? (t.toList.filter fun c => !Text.isBlank c)).elim
        (.error (.invalidData (String.ofList (t.toList.filter fun c => !Text.isBlank c)))) .ok := by
  unfold readContent
  rw [h]
  rcases hdecode : Base64.decode? (t.toList.filter fun c => !Text.isBlank c) with _ | octets
  · simp only [bind, Except.bind, hdecode, Option.elim_none]
  · simp only [bind, Except.bind, hdecode, Option.elim_some]

theorem readContent_of_lines {octets body : Bytes} (h : Lines (Base64.encode octets) body) :
    readContent body = .ok octets := by
  obtain ⟨cs, hbody, hcs⟩ := h.exists_chars fun c hc => isPlain_of_mem (Base64.mem_encode hc)
  have htext : readText body = .ok (String.ofList cs) := by
    rw [hbody, ← readText_octets, Text.octets, String.toList_ofList]
  rw [readContent_of_readText htext, String.toList_ofList, hcs, Base64.decode?_encode,
    Option.elim_some]

theorem checkHeaders_of_readText {s : Bytes} {t : String} (h : readText s = .ok t) :
    checkHeaders s = ((lines t.toList).find? fun l => !l.contains ':').elim (.ok ())
      fun l => .error (.invalidHeader (String.ofList l)) := by
  unfold checkHeaders
  rw [h]
  rcases hfind : (lines t.toList).find? (fun l => !l.contains ':') with _ | l
  · simp only [bind, Except.bind, hfind, Option.elim_none]
  · simp only [bind, Except.bind, hfind, Option.elim_some]

theorem checkHeaders_nil : checkHeaders [] = .ok () := by
  have htext : readText [] = .ok "" := readText_octets ""
  unfold checkHeaders
  rw [htext]
  rfl

namespace Block

theorem all_of_none (h : Frame.next? s = none) : all s = .ok [] := by
  unfold all
  rw [Frame.all_of_none h]
  rfl

theorem all_cons {f : Frame} (h : Frame.next? s = some (f, rest)) :
    all s = (ofFrame f).bind fun b => (all rest).map (b :: ·) := by
  unfold all
  rw [Frame.all_of_next h, List.mapM_cons]
  rcases ofFrame f with fault | b
  · rfl
  · rcases (Frame.all rest).mapM ofFrame with fault | bs <;> rfl

theorem all_of_next {f : Frame} (h : Frame.next? s = some (f, rest)) (hall : all s = .ok bs) :
    ∃ b cs, ofFrame f = .ok b ∧ all rest = .ok cs ∧ bs = b :: cs := by
  rw [all_cons h] at hall
  rcases hb : ofFrame f with fault | b
  · rw [hb] at hall
    cases hall
  · rcases hcs : all rest with fault | cs
    · rw [hb, hcs] at hall
      cases hall
    · rw [hb, hcs] at hall
      cases hall
      exact ⟨b, cs, rfl, rfl, rfl⟩

theorem ofFrame_lines {b : Block} {body : Bytes} (hlabel : b.label ≠ "")
    (h : Lines (Base64.encode b.content) body) :
    ofFrame ⟨Text.octets b.label, body, Text.octets b.label⟩ = .ok b := by
  have hsplit : Frame.split body = ([], body) :=
    (h.noEmptyLine fun c hc => isPlain_of_mem (Base64.mem_encode hc)).split_eq
  unfold ofFrame
  rw [readLabel_octets hlabel, readLabel_octets hlabel, hsplit]
  show (if b.label ≠ b.label then _ else _) = _
  rw [if_neg (not_not.mpr rfl), readContent_of_lines h, checkHeaders_nil]
  rfl

/-- The blocks of a file, with the beginning of another behind them. -/
theorem all_of_written_append {c : Bytes} (h : Written bs s) (hc : Unfinished c) :
    all (s ++ c) = .ok bs := by
  induction bs generalizing s with
  | nil =>
    cases h with
    | text hgap => exact all_of_none (hc.next? _ hgap)
  | cons b bs ih =>
    cases h with
    | @block gap a rest b bs hgap ha hrest =>
      obtain ⟨body, hlines, hlabel, hnext⟩ := Frame.next?_armour hgap ha (rest ++ c)
      have hall : all (rest.dropWhile isGap ++ c) = .ok bs := ih hrest.dropWhile
      rw [hc.dropWhile_append] at hnext
      rw [List.append_assoc, List.append_assoc, all_cons hnext, ofFrame_lines hlabel hlines, hall]
      rfl

/-- **The blocks of a file are read back**, each with its content and in their order. -/
theorem all_of_written (h : Written bs s) : all s = .ok bs := by
  have hall := all_of_written_append h Unfinished.nil
  rwa [List.append_nil] at hall

/-! ## The usual form -/

/-- Lines of 64 characters, but for the last. -/
def wrap (e : Bytes) : List Char → Bytes
  | [] => []
  | c :: s => (c :: s.take 63).flatMap String.utf8EncodeChar ++ (e ++ wrap e (s.drop 63))
termination_by s => s.length
decreasing_by
  rw [List.length_drop, List.length_cons]
  omega

theorem lines_wrap {e : Bytes} (he : IsLineBreak e) (s : List Char) : Lines s (wrap e s) := by
  induction s using wrap.induct with
  | case1 =>
    rw [wrap]
    exact .nil
  | case2 c s ih =>
    have hlines := Lines.cons (List.cons_ne_nil c (s.take 63)) he ih
    rw [List.cons_append, List.take_append_drop] at hlines
    rw [wrap]
    exact hlines

/-- A block in the usual form, with `e` after each line but the last. -/
def armour (e : Bytes) (b : Block) : Bytes :=
  beginMarker ++ (Text.octets b.label ++ (dashes ++ (e ++ (wrap e (Base64.encode b.content) ++
    (endMarker ++ (Text.octets b.label ++ dashes))))))

theorem armour_armour {e : Bytes} (he : IsLineBreak e) (hlabel : b.label ≠ "")
    (hdash : '-' ∉ b.label.toList) : Armour b (b.armour e) :=
  .intro hlabel hdash he (lines_wrap he _)

end Block

end ChainOfTrust.Pem
