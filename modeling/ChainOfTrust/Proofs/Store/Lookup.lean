import ChainOfTrust.FileTree

/-!
# Entries of a directory by their paths

* `FilePath.IsName` : what an entry can be called;
* `FilePath.exists_names_join` : the names in an entry's path are those of the directory's and its own;
* `FileSystem.find_join` : an entry's path leads to what the directory has under the name, unless it
  is too long;
* `FileSystem.isFile_join`, `FileSystem.readFile_join` : the same for files.
-/

namespace ChainOfTrust

set_option autoImplicit false

namespace FilePath

variable {dir n : String}

/-- What an entry of a directory can be called. -/
structure IsName (n : String) : Prop where
  ne_empty : n ≠ ""
  ne_dot : n ≠ "."
  ne_dots : n ≠ ".."
  no_slash : '/' ∉ n.toList
  no_nul : '\x00' ∉ n.toList
  size_le : n.utf8ByteSize ≤ FileSystem.maxName

instance (n : String) : Decidable (IsName n) :=
  decidable_of_iff (n ≠ "" ∧ n ≠ "." ∧ n ≠ ".." ∧ '/' ∉ n.toList ∧ '\x00' ∉ n.toList ∧
      n.utf8ByteSize ≤ FileSystem.maxName)
    ⟨fun ⟨hempty, hdot, hdots, hslash, hnul, hsize⟩ => ⟨hempty, hdot, hdots, hslash, hnul, hsize⟩,
      fun h => ⟨h.ne_empty, h.ne_dot, h.ne_dots, h.no_slash, h.no_nul, h.size_le⟩⟩

/-- The names between the slashes. -/
def parts (path : List Char) : List String :=
  ((path.splitOnP (· == '/')).map String.ofList).filter fun n => !n.isEmpty

theorem names_eq (path : String) : names path =
    parts path.toList ++ if path.toList.getLast? = some '/' then ["."] else [] := rfl

theorem parts_append_slash (base rest : List Char) :
    parts (base ++ '/' :: rest) = parts base ++ parts rest := by
  unfold parts
  rw [List.splitOnP_append_cons _ _ (by decide), List.map_append, List.filter_append]

theorem isEmpty_eq_false (h : n ≠ "") : n.isEmpty = false := by
  rw [Bool.eq_false_iff]
  exact mt String.isEmpty_iff.mp h

theorem parts_of_isName (hn : IsName n) : parts n.toList = [n] := by
  have hslash : ∀ c ∈ n.toList, (c == '/') = false := fun c hc =>
    beq_eq_false_iff_ne.mpr fun h => hn.no_slash (h ▸ hc)
  unfold parts
  rw [List.splitOnP_eq_singleton hslash, List.map_singleton, String.ofList_toList,
    List.filter_cons_of_pos (by rw [isEmpty_eq_false hn.ne_empty]; rfl)]
  rfl

theorem join_of_slash (hslash : dir.toList.getLast? = some '/') : join dir n = dir ++ n := by
  unfold join
  rw [decide_eq_true hslash, Bool.or_true]
  rfl

theorem join_of_no_slash (hdir : dir ≠ "") (hslash : dir.toList.getLast? ≠ some '/') :
    join dir n = dir ++ "/" ++ n := by
  unfold join
  rw [isEmpty_eq_false hdir, decide_eq_false hslash]
  rfl

/-- An entry's path is its name after a slash, the last of the directory's path if that ends in
one. -/
theorem exists_base_join (hdir : dir ≠ "") :
    ∃ base, (join dir n).toList = base ++ '/' :: n.toList ∧
      (dir.toList = base ++ ['/'] ∨ dir.toList = base ∧ base.getLast? ≠ some '/') := by
  by_cases hslash : dir.toList.getLast? = some '/'
  · obtain ⟨base, hbase⟩ := List.getLast?_eq_some_iff.mp hslash
    refine ⟨base, ?_, .inl hbase⟩
    rw [join_of_slash hslash, String.toList_append, hbase, List.append_assoc]
    rfl
  · refine ⟨dir.toList, ?_, .inr ⟨rfl, hslash⟩⟩
    rw [join_of_no_slash hdir hslash, String.toList_append, String.toList_append,
      List.append_assoc]
    rfl

theorem getLast?_append_isName (hn : IsName n) (l : List Char) :
    (l ++ '/' :: n.toList).getLast? ≠ some '/' := by
  intro h
  have hne : n.toList ≠ [] := fun h => hn.ne_empty (String.toList_eq_nil_iff.mp h)
  rw [List.append_cons, List.getLast?_append, List.getLast?_eq_some_getLast hne,
    Option.some_or] at h
  exact hn.no_slash (Option.some.inj h ▸ List.getLast_mem hne)

/-- A slash at the end of the directory's path stands for the directory itself. -/
theorem exists_names_join (hn : IsName n) (hdir : dir ≠ "") :
    ∃ ns, (names dir = ns ∨ names dir = ns ++ ["."]) ∧ names (join dir n) = ns ++ [n] := by
  obtain ⟨base, hjoin, hbase⟩ := exists_base_join hdir
  refine ⟨parts base, ?_, ?_⟩
  · rcases hbase with hbase | ⟨hbase, hslash⟩
    · right
      rw [names_eq, hbase, parts_append_slash, if_pos (List.getLast?_concat ..)]
      simp [parts]
    · left
      rw [names_eq, hbase, if_neg hslash, List.append_nil]
  · rw [names_eq, hjoin, if_neg (getLast?_append_isName hn base), parts_append_slash,
      parts_of_isName hn, List.append_nil]

theorem exists_toList_join (hn : IsName n) (hdir : dir ≠ "") :
    ∃ t, (join dir n).toList = dir.toList ++ t ∧ '\x00' ∉ t := by
  obtain ⟨base, hjoin, hbase | ⟨hbase, -⟩⟩ := exists_base_join hdir
  · refine ⟨n.toList, ?_, hn.no_nul⟩
    rw [hjoin, hbase, List.append_assoc]
    rfl
  · refine ⟨'/' :: n.toList, ?_, ?_⟩
    · rw [hjoin, hbase]
    · rw [List.mem_cons, not_or]
      exact ⟨by decide, hn.no_nul⟩

end FilePath

namespace FileSystem

open FilePath (IsName)

variable {fs : FileSystem} {dir n : String} {entries : List (String × FileTree)}

theorem follow_append (above : List FileTree) (here : FileTree) (ns ms : List String) :
    follow above here (ns ++ ms) =
      (follow above here ns).bind fun reached => follow reached.1 reached.2 ms := by
  induction ns generalizing above here with
  | nil => rfl
  | cons n ns ih =>
    rw [List.cons_append, follow.eq_def, follow.eq_def above here (n :: ns)]
    cases here with
    | file content => rfl
    | directory entries =>
      simp only
      split
      · exact ih _ _
      · split
        · split
          · exact ih _ _
          · exact ih _ _
        · split
          · rfl
          · split
            · rfl
            · exact ih _ _

theorem follow_dot {above above' : List FileTree} {here : FileTree} {ns : List String}
    (h : follow above here (ns ++ ["."]) = .ok (above', .directory entries)) :
    follow above here ns = .ok (above', .directory entries) := by
  rw [follow_append] at h
  rcases hns : follow above here ns with fault | ⟨up, t⟩
  · rw [hns] at h
    cases h
  · rw [hns] at h
    cases t with
    | file content => cases h
    | directory es => exact h

theorem follow_name {above : List FileTree} (hn : IsName n) :
    follow above (.directory entries) [n] =
      match entries.lookup n with
      | none => .error .notFound
      | some t => .ok (.directory entries :: above, t) := by
  rw [follow.eq_def]
  simp only
  rw [if_neg hn.ne_dot, if_neg hn.ne_dots, if_neg (Nat.not_lt.mpr hn.size_le)]
  rfl

/-- Where a path starts: at the root, or in the working directory. -/
def start (fs : FileSystem) (path : String) : Except FileFault (List FileTree × FileTree) :=
  if path.toList.head? = some '/' then .ok ([], fs.root) else follow [] fs.root fs.working

theorem find_eq (fs : FileSystem) (path : String) : fs.find path =
    if '\x00' ∈ path.toList then .error .invalidPath
    else if path = "" then .error .notFound
    else if maxPath < path.utf8ByteSize then .error .nameTooLong
    else (fs.start path).bind fun s =>
      (follow s.1 s.2 (FilePath.names path)).map fun reached => reached.2 := by
  unfold find start
  simp only [List.contains_iff_mem, String.isEmpty_iff]
  split
  · rfl
  · split
    · rfl
    · split
      · rfl
      · have hfollow (above : List FileTree) (here : FileTree) :
            ((follow above here (FilePath.names path)).bind fun r => pure r.2) =
              (follow above here (FilePath.names path)).map fun r => r.2 := by
          cases follow above here (FilePath.names path) <;> rfl
        split
        · exact hfollow [] fs.root
        · cases follow [] fs.root fs.working with
          | error fault => rfl
          | ok s => exact hfollow s.1 s.2

/-- What a path that leads somewhere went through. -/
theorem exists_of_find {path : String} {t : FileTree} (h : fs.find path = .ok t) :
    '\x00' ∉ path.toList ∧ path ≠ "" ∧ ∃ s up, fs.start path = .ok s ∧
      follow s.1 s.2 (FilePath.names path) = .ok (up, t) := by
  rw [find_eq] at h
  split at h
  · cases h
  · rename_i hnul
    split at h
    · cases h
    · rename_i hne
      split at h
      · cases h
      · rcases hs : fs.start path with fault | s
        · rw [hs] at h
          cases h
        · rw [hs] at h
          change (follow s.1 s.2 (FilePath.names path)).map _ = _ at h
          rcases hfollow : follow s.1 s.2 (FilePath.names path) with fault | ⟨up, reached⟩
          · rw [hfollow] at h
            cases h
          · rw [hfollow] at h
            cases h
            exact ⟨hnul, hne, s, up, rfl, hfollow⟩

theorem start_join (hn : IsName n) (hdir : dir ≠ "") :
    fs.start (FilePath.join dir n) = fs.start dir := by
  obtain ⟨t, ht, -⟩ := FilePath.exists_toList_join hn hdir
  obtain ⟨c, cs, hcs⟩ := List.exists_cons_of_ne_nil (mt String.toList_eq_nil_iff.mp hdir)
  unfold start
  rw [ht, hcs]
  rfl

/-- **An entry's path leads to the entry**, as long as a path of its length can be followed. -/
theorem find_join (hdir : fs.find dir = .ok (.directory entries)) (hn : IsName n) :
    fs.find (FilePath.join dir n) =
      if maxPath < (FilePath.join dir n).utf8ByteSize then .error .nameTooLong
      else match entries.lookup n with
        | none => .error .notFound
        | some t => .ok t := by
  obtain ⟨hnul, hne, s, up, hs, hup⟩ := exists_of_find hdir
  obtain ⟨t, ht, htnul⟩ := FilePath.exists_toList_join hn hne
  have hjoinNul : '\x00' ∉ (FilePath.join dir n).toList := by
    rw [ht, List.mem_append, not_or]
    exact ⟨hnul, htnul⟩
  have hjoinNe : FilePath.join dir n ≠ "" := by
    intro h
    rw [h] at ht
    exact hne (String.toList_eq_nil_iff.mp (List.append_eq_nil_iff.mp ht.symm).1)
  obtain ⟨ns, hnames, hjoin⟩ := FilePath.exists_names_join hn hne
  have hns : follow s.1 s.2 ns = .ok (up, .directory entries) := by
    rcases hnames with hnames | hnames
    · rwa [hnames] at hup
    · exact follow_dot (hnames ▸ hup)
  rw [find_eq, if_neg hjoinNul, if_neg hjoinNe, start_join hn hne, hs, hjoin]
  split
  · rfl
  · show (follow s.1 s.2 (ns ++ [n])).map (fun reached => reached.2) = _
    rw [follow_append, hns]
    show (follow up (.directory entries) [n]).map (fun reached => reached.2) = _
    rw [follow_name hn]
    cases entries.lookup n <;> rfl

theorem find_of_listDirectory (h : fs.listDirectory dir = .ok entries) :
    fs.find dir = .ok (.directory entries) := by
  unfold listDirectory at h
  rcases hfind : fs.find dir with fault | t
  · rw [hfind] at h
    cases h
  · rw [hfind] at h
    cases t with
    | file content => cases h
    | directory es =>
      cases h
      rfl

theorem isFile_join (hdir : fs.listDirectory dir = .ok entries) (hn : IsName n) :
    fs.isFile (FilePath.join dir n) = true ↔
      (FilePath.join dir n).utf8ByteSize ≤ maxPath ∧ ∃ data, entries.lookup n = some (.file data) := by
  unfold isFile
  rw [find_join (find_of_listDirectory hdir) hn]
  by_cases hsize : maxPath < (FilePath.join dir n).utf8ByteSize
  · rw [if_pos hsize]
    exact ⟨fun h => (Bool.false_ne_true h).elim, fun h => absurd h.1 (Nat.not_le.mpr hsize)⟩
  · rw [if_neg hsize]
    rcases entries.lookup n with _ | content | es
    · exact ⟨fun h => (Bool.false_ne_true h).elim, fun ⟨_, _, h⟩ => by cases h⟩
    · exact ⟨fun _ => ⟨Nat.not_lt.mp hsize, content, rfl⟩, fun _ => rfl⟩
    · exact ⟨fun h => (Bool.false_ne_true h).elim, fun ⟨_, _, h⟩ => by cases h⟩

theorem readFile_join (hdir : fs.listDirectory dir = .ok entries) (hn : IsName n)
    (hsize : (FilePath.join dir n).utf8ByteSize ≤ maxPath) {data : Bytes}
    (hdata : entries.lookup n = some (.file data)) :
    fs.readFile (FilePath.join dir n) = .ok data := by
  unfold readFile
  rw [find_join (find_of_listDirectory hdir) hn, if_neg (Nat.not_lt.mpr hsize), hdata]
  rfl

end FileSystem

end ChainOfTrust
