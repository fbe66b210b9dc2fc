import ChainOfTrust.Proofs.Store.Bundle
import ChainOfTrust.Proofs.Store.Loading
import ChainOfTrust.Proofs.Store.Lookup
import ChainOfTrust.Proofs.Text.ByteOrder
import Mathlib.Data.List.Sort
import Mathlib.Data.List.TakeDrop

/-!
# Certificate files of a directory

* `FilePath.extension?_eq_some_iff` : a name with an extension is a stem, a point and the extension;
* `StoreSource.certificateFiles_ascending`, `StoreSource.certificateFiles_eq_of_mem_iff` : the
  certificate files come in the order of the octets of their names, whatever the order of the listing;
* `StoreSource.loadFiles_outcome` : a row of files is a row of bundles;
* `StoreSource.load_directory_by_name` : what a directory holds for a store depends on its certificate
  files alone;
* `StoreSource.load_deepDirectory` : a file that is reached by a path that is too long is left out.
-/

namespace ChainOfTrust

set_option autoImplicit false

/-! ## Names with an extension -/

namespace FilePath

theorem extension?_append {stem ext : String} (hstem : stem ≠ "") (hne : ext ≠ "")
    (hpoint : '.' ∉ ext.toList) : extension? (stem ++ "." ++ ext) = some ext := by
  have hchars : (stem ++ "." ++ ext).toList.reverse =
      ext.toList.reverse ++ '.' :: stem.toList.reverse := by
    simp
  have hall : ∀ c ∈ ext.toList.reverse, (c != '.') = true := fun c hc =>
    bne_iff_ne.mpr fun h => hpoint (h ▸ List.mem_reverse.mp hc)
  have hspan : (stem ++ "." ++ ext).toList.reverse.span (· != '.') =
      (ext.toList.reverse, '.' :: stem.toList.reverse) := by
    rw [List.span_eq_takeWhile_dropWhile, hchars, List.takeWhile_append_of_pos hall,
      List.dropWhile_append_of_pos hall]
    simp
  have hdots : stem ++ "." ++ ext ≠ ".." := by
    intro h
    rw [h] at hspan
    have hnil : [] = ext.toList.reverse := congrArg Prod.fst hspan
    exact hne (String.toList_eq_nil_iff.mp (List.reverse_eq_nil_iff.mp hnil.symm))
  have hbefore : stem.toList.reverse.isEmpty = false := by
    rw [Bool.eq_false_iff]
    intro h
    exact hstem (String.toList_eq_nil_iff.mp (List.reverse_eq_nil_iff.mp (List.isEmpty_iff.mp h)))
  unfold extension?
  rw [hspan]
  simp only [hbefore, hdots]
  simp

theorem exists_stem_of_extension? {name ext : String} (h : extension? name = some ext) :
    ∃ stem, stem ≠ "" ∧ name = stem ++ "." ++ ext := by
  unfold extension? at h
  rw [List.span_eq_takeWhile_dropWhile] at h
  split at h
  · cases h
  · rename_i after point before hspan
    split at h
    · cases h
    · rename_i hbefore
      rw [Bool.or_eq_true, not_or] at hbefore
      obtain ⟨hafter, hrest⟩ := Prod.mk.inj hspan
      have hpoint : point = '.' := by
        have hhead := List.head?_dropWhile_not (· != '.') name.toList.reverse
        rw [hrest] at hhead
        simpa using hhead
      have hchars : name.toList.reverse = after ++ '.' :: before := by
        rw [← List.takeWhile_append_dropWhile (p := (· != '.')) (l := name.toList.reverse), hafter,
          hrest, hpoint]
      refine ⟨String.ofList before.reverse, ?_, ?_⟩
      · intro hempty
        have hnil : before.reverse = [] := by
          rw [← String.toList_ofList (l := before.reverse), hempty]
          rfl
        exact hbefore.1 (List.isEmpty_iff.mpr (List.reverse_eq_nil_iff.mp hnil))
      · rw [← Option.some.inj h]
        apply String.toList_inj.mp
        rw [← List.reverse_reverse name.toList, hchars]
        simp

/-- A name that ends in a point and an extension of certificate files, with a stem before it. -/
def HasCertificateExtension (name : String) : Prop :=
  ∃ stem, stem ≠ "" ∧ (name = stem ++ "." ++ "pem" ∨ name = stem ++ "." ++ "crt")

end FilePath

theorem StoreSource.isCertificateName_iff {name : String} :
    isCertificateName name = true ↔ FilePath.HasCertificateExtension name := by
  unfold isCertificateName
  rw [Bool.or_eq_true, decide_eq_true_eq, decide_eq_true_eq]
  constructor
  · rintro (h | h)
    · obtain ⟨stem, hstem, hname⟩ := FilePath.exists_stem_of_extension? h
      exact ⟨stem, hstem, .inl hname⟩
    · obtain ⟨stem, hstem, hname⟩ := FilePath.exists_stem_of_extension? h
      exact ⟨stem, hstem, .inr hname⟩
  · rintro ⟨stem, hstem, rfl | rfl⟩
    · exact .inl (FilePath.extension?_append hstem (by decide) (by decide))
    · exact .inr (FilePath.extension?_append hstem (by decide) (by decide))

/-! ## What a directory holds -/

/-- A listing names every entry once, by a name that an entry can have. -/
structure WellNamed (entries : List (String × FileTree)) : Prop where
  nodup : (entries.map (·.1)).Nodup
  isName : ∀ e ∈ entries, FilePath.IsName e.1

instance (entries : List (String × FileTree)) : Decidable (WellNamed entries) :=
  decidable_of_iff ((entries.map (·.1)).Nodup ∧ ∀ e ∈ entries, FilePath.IsName e.1)
    ⟨fun h => ⟨h.1, h.2⟩, fun h => ⟨h.nodup, h.isName⟩⟩

theorem lookup_eq_some_iff {entries : List (String × FileTree)} {n : String} {t : FileTree}
    (h : (entries.map (·.1)).Nodup) : entries.lookup n = some t ↔ (n, t) ∈ entries := by
  induction entries with
  | nil => exact ⟨fun h => (nomatch h), fun h => (nomatch h)⟩
  | cons e entries ih =>
    obtain ⟨m, u⟩ := e
    obtain ⟨hm, hrest⟩ := List.nodup_cons.mp h
    rw [List.lookup_cons, List.mem_cons]
    by_cases hn : n = m
    · subst hn
      have hnot : (n, t) ∉ entries := fun hmem => hm (List.mem_map.mpr ⟨(n, t), hmem, rfl⟩)
      simp only [BEq.rfl]
      constructor
      · intro hu
        cases hu
        exact .inl rfl
      · intro hmem
        cases hmem.resolve_right hnot
        rfl
    · rw [beq_eq_false_iff_ne.mpr hn, ih hrest]
      exact ⟨fun hmem => .inr hmem, fun hmem => hmem.resolve_left fun h => hn (congrArg Prod.fst h)⟩

namespace StoreSource

open FilePath (HasCertificateExtension)

variable {fs fs' : FileSystem} {dir n : String} {entries entries' : List (String × FileTree)}
  {names names' : List String}

/-! ## Certificate files by name -/

/-- In ascending order of the octets of the names. -/
def Ascending (names : List String) : Prop :=
  names.Pairwise fun a b => Text.octets a < Text.octets b

theorem Ascending.eq_of_mem_iff (h : Ascending names) (h' : Ascending names')
    (hmem : ∀ n, n ∈ names ↔ n ∈ names') : names = names' := by
  have hlt {l : List String} (hl : Ascending l) : l.Pairwise (· < ·) :=
    hl.imp Text.octets_lt_iff.mp
  exact (hlt h).eq_of_mem_iff (hlt h') hmem

theorem mem_certificateFiles :
    n ∈ certificateFiles fs dir names ↔ n ∈ names ∧ isCertificateFile fs dir n = true := by
  unfold certificateFiles
  rw [List.mem_mergeSort, List.mem_filter]

theorem certificateFiles_ascending (h : names.Nodup) :
    Ascending (certificateFiles fs dir names) := by
  have hperm : (certificateFiles fs dir names).Perm (names.filter (isCertificateFile fs dir)) :=
    List.mergeSort_perm _ _
  have hnodup : (certificateFiles fs dir names).Nodup := hperm.nodup_iff.mpr (h.filter _)
  have hiff (a b : String) : (!decide (b < a)) = true ↔ a ≤ b := by
    rw [Bool.not_eq_true', decide_eq_false_iff_not, not_lt]
  have hle : (certificateFiles fs dir names).Pairwise fun a b => (!decide (b < a)) = true := by
    apply List.pairwise_mergeSort
    · intro a b c hab hbc
      rw [hiff] at hab hbc ⊢
      exact le_trans hab hbc
    · intro a b
      rw [Bool.or_eq_true, hiff, hiff]
      exact le_total a b
  exact (hle.and hnodup).imp fun h =>
    Text.octets_lt_iff.mpr (lt_of_le_of_ne ((hiff _ _).mp h.1) h.2)

/-- An entry is read if its name has the extension, it is a file, and a path can lead to it. -/
theorem mem_certificateFiles_listing (hlist : fs.listDirectory dir = .ok entries)
    (hnamed : WellNamed entries) :
    n ∈ certificateFiles fs dir (entries.map (·.1)) ↔
      ∃ data, (n, .file data) ∈ entries ∧ HasCertificateExtension n ∧
        (FilePath.join dir n).utf8ByteSize ≤ FileSystem.maxPath := by
  rw [mem_certificateFiles, isCertificateFile, Bool.and_eq_true, isCertificateName_iff]
  constructor
  · rintro ⟨hmem, hext, hfile⟩
    obtain ⟨e, he, rfl⟩ := List.mem_map.mp hmem
    obtain ⟨hsize, data, hdata⟩ :=
      (FileSystem.isFile_join hlist (hnamed.isName e he)).mp hfile
    exact ⟨data, (lookup_eq_some_iff hnamed.nodup).mp hdata, hext, hsize⟩
  · rintro ⟨data, hmem, hext, hsize⟩
    refine ⟨List.mem_map.mpr ⟨_, hmem, rfl⟩, hext, ?_⟩
    exact (FileSystem.isFile_join hlist (hnamed.isName _ hmem)).mpr
      ⟨hsize, data, (lookup_eq_some_iff hnamed.nodup).mpr hmem⟩

/-! ## A row of files -/

theorem loadFiles_cons (fs : FileSystem) (dir n : String) (names : List String) :
    loadFiles fs dir (n :: names) =
      (bundle (FilePath.join dir n)).load fs >>= fun here =>
        loadFiles fs dir names >>= fun others => pure (here ++ others) := by
  rw [loadFiles, load]
  rcases fs.readFile (FilePath.join dir n) with fault | data
  · rfl
  · rfl

/-- A row of files is a row of bundles: their certificates one after another, or the first error. -/
theorem loadFiles_outcome (fs : FileSystem) (dir : String) (names : List String) :
    (loadFiles fs dir names).outcome =
      (names.mapM fun n => ((bundle (FilePath.join dir n)).load fs).outcome).map List.flatten := by
  induction names with
  | nil => rfl
  | cons n names ih =>
    rw [loadFiles_cons, Logged.outcome_bind, List.mapM_cons]
    rcases ((bundle (FilePath.join dir n)).load fs).outcome with e | here
    · rfl
    · show ((loadFiles fs dir names) >>= fun others => pure (here ++ others)).outcome = _
      rw [Logged.outcome_bind, ih]
      rcases names.mapM fun n => ((bundle (FilePath.join dir n)).load fs).outcome with e | others
      · rfl
      · rfl

theorem loadFiles_congr
    (h : ∀ n ∈ names, fs.readFile (FilePath.join dir n) = fs'.readFile (FilePath.join dir n)) :
    loadFiles fs dir names = loadFiles fs' dir names := by
  induction names with
  | nil => rfl
  | cons n names ih =>
    rw [loadFiles_cons, loadFiles_cons, ih fun m hm => h m (List.mem_cons_of_mem n hm), load, load,
      h n List.mem_cons_self]

theorem load_directory (hlist : fs.listDirectory dir = .ok entries) :
    ((directory dir).load fs).outcome =
      (loadFiles fs dir (certificateFiles fs dir (entries.map (·.1)))).outcome := by
  simp only [load, hlist]
  rfl

/-! ## Paths that are too long -/

/-- Entries that no path can name are not read. -/
theorem load_directory_of_long (hlist : fs.listDirectory dir = .ok entries)
    (hnamed : WellNamed entries)
    (hlong : ∀ e ∈ entries, FileSystem.maxPath < (FilePath.join dir e.1).utf8ByteSize) :
    ((directory dir).load fs).outcome = .ok [] := by
  have hnone : certificateFiles fs dir (entries.map (·.1)) = [] := by
    rw [List.eq_nil_iff_forall_not_mem]
    intro n hn
    obtain ⟨data, hmem, -, hsize⟩ := (mem_certificateFiles_listing hlist hnamed).mp hn
    exact absurd hsize (Nat.not_le.mpr (hlong _ hmem))
  rw [load_directory hlist, hnone]
  rfl

theorem load_bundle_of_long (hlist : fs.listDirectory dir = .ok entries) (hn : FilePath.IsName n)
    (hlong : FileSystem.maxPath < (FilePath.join dir n).utf8ByteSize) :
    ((bundle (FilePath.join dir n)).load fs).outcome =
      .error (.trustStore (.unreadable (FilePath.join dir n) .nameTooLong)) := by
  have hread : fs.readFile (FilePath.join dir n) = .error .nameTooLong := by
    unfold FileSystem.readFile
    rw [FileSystem.find_join (FileSystem.find_of_listDirectory hlist) hn, if_pos hlong]
    rfl
  simp only [load, hread]

/-! ## Directories -/

/-- **A directory as a store is its certificate files in the order of their names.** The files are
loaded as bundles, one after another, and what else the directory holds and how it is listed makes no
difference. -/
theorem load_directory_by_name (hlist : fs.listDirectory dir = .ok entries)
    (hnamed : WellNamed entries) :
    (∃ names, Ascending names ∧
      (∀ n, n ∈ names ↔ ∃ data, (n, .file data) ∈ entries ∧ HasCertificateExtension n ∧
        (FilePath.join dir n).utf8ByteSize ≤ FileSystem.maxPath) ∧
      ((directory dir).load fs).outcome =
        (names.mapM fun n => ((bundle (FilePath.join dir n)).load fs).outcome).map List.flatten) ∧
    ∀ fs' entries', fs'.listDirectory dir = .ok entries' → WellNamed entries' →
      (∀ n data, HasCertificateExtension n →
        ((n, .file data) ∈ entries ↔ (n, .file data) ∈ entries')) →
      ((directory dir).load fs').outcome = ((directory dir).load fs).outcome := by
  constructor
  · refine ⟨certificateFiles fs dir (entries.map (·.1)), certificateFiles_ascending hnamed.nodup,
      fun n => mem_certificateFiles_listing hlist hnamed, ?_⟩
    rw [load_directory hlist, loadFiles_outcome]
  · intro fs' entries' hlist' hnamed' hsame
    have hfiles : certificateFiles fs' dir (entries'.map (·.1)) =
        certificateFiles fs dir (entries.map (·.1)) := by
      apply (certificateFiles_ascending hnamed'.nodup).eq_of_mem_iff
        (certificateFiles_ascending hnamed.nodup)
      intro n
      rw [mem_certificateFiles_listing hlist hnamed, mem_certificateFiles_listing hlist' hnamed']
      apply exists_congr
      intro data
      constructor
      · rintro ⟨hmem, hext, hsize⟩
        exact ⟨(hsame n data hext).mpr hmem, hext, hsize⟩
      · rintro ⟨hmem, hext, hsize⟩
        exact ⟨(hsame n data hext).mp hmem, hext, hsize⟩
    rw [load_directory hlist, load_directory hlist', hfiles]
    apply congrArg Logged.outcome
    apply loadFiles_congr
    intro n hn
    obtain ⟨data, hmem, hext, hsize⟩ := (mem_certificateFiles_listing hlist hnamed).mp hn
    have hmem' := (hsame n data hext).mp hmem
    rw [FileSystem.readFile_join hlist (hnamed.isName _ hmem) hsize
        ((lookup_eq_some_iff hnamed.nodup).mpr hmem),
      FileSystem.readFile_join hlist' (hnamed'.isName _ hmem') hsize
        ((lookup_eq_some_iff hnamed'.nodup).mpr hmem')]

/-! ## One directory listed in two ways -/

/-- A file system with the directory `d`, which holds `entries`. -/
def directoryOf (entries : List (String × FileTree)) : FileSystem :=
  ⟨.directory [("d", .directory entries)], []⟩

/-- A root and a file that is no bundle of certificates, with a directory and a file between them
that are not read. -/
def certs : List (String × FileTree) :=
  [("z.crt", .file (bundleText [rootBlock])), ("old.pem", .directory []), (".pem", .file [0x00]),
    ("a.pem", .file (bundleText [hollowBlock]))]

def moreCerts : List (String × FileTree) := ("a.PEM", .file []) :: certs.reverse

theorem load_moreCerts :
    (∃ names, Ascending names ∧
      (∀ n, n ∈ names ↔ ∃ data, (n, .file data) ∈ certs ∧ HasCertificateExtension n ∧
        (FilePath.join "d" n).utf8ByteSize ≤ FileSystem.maxPath) ∧
      ((directory "d").load (directoryOf certs)).outcome =
        (names.mapM fun n =>
          ((bundle (FilePath.join "d" n)).load (directoryOf certs)).outcome).map List.flatten) ∧
    ((directory "d").load (directoryOf moreCerts)).outcome =
      ((directory "d").load (directoryOf certs)).outcome := by
  have hlist : (directoryOf certs).listDirectory "d" = .ok certs := rfl
  have hload := load_directory_by_name hlist (by decide)
  refine ⟨hload.1, hload.2 (directoryOf moreCerts) moreCerts rfl (by decide) ?_⟩
  intro n data hext
  have hother : n ≠ "a.PEM" := by
    rintro rfl
    exact absurd (isCertificateName_iff.mpr hext) (by decide)
  rw [moreCerts, List.mem_cons, List.mem_reverse]
  exact ⟨fun hmem => .inr hmem, fun hmem => hmem.resolve_left fun h => hother (congrArg Prod.fst h)⟩

/-! ## A path that is too long -/

/-- The directory `d`, reached through the working directory `k` times. -/
def roundabout : Nat → String
  | 0 => "d"
  | k + 1 => "./" ++ roundabout k

theorem utf8ByteSize_roundabout (k : Nat) : (roundabout k).utf8ByteSize = 2 * k + 1 := by
  induction k with
  | zero => rfl
  | succ k ih =>
    have htwo : "./".utf8ByteSize = 2 := rfl
    rw [roundabout, String.utf8ByteSize_append, ih, htwo]
    omega

theorem toList_roundabout_succ (k : Nat) :
    (roundabout (k + 1)).toList = '.' :: '/' :: (roundabout k).toList := by
  rw [roundabout, String.toList_append]
  rfl

theorem roundabout_chars (k : Nat) : '\x00' ∉ (roundabout k).toList ∧
    (roundabout k).toList.head? ≠ some '/' ∧ (roundabout k).toList.getLast? = some 'd' := by
  induction k with
  | zero => decide
  | succ k ih =>
    obtain ⟨hnul, -, hlast⟩ := ih
    rw [toList_roundabout_succ]
    refine ⟨?_, by simp, ?_⟩
    · simp [hnul]
    · rw [List.getLast?_cons, List.getLast?_cons, hlast]
      rfl

theorem roundabout_ne_empty (k : Nat) : roundabout k ≠ "" := by
  obtain ⟨-, -, hlast⟩ := roundabout_chars k
  intro h
  rw [h] at hlast
  cases hlast

theorem parts_roundabout (k : Nat) :
    FilePath.parts (roundabout k).toList = List.replicate k "." ++ ["d"] := by
  induction k with
  | zero => exact FilePath.parts_of_isName (by decide)
  | succ k ih =>
    have hchars : (roundabout (k + 1)).toList = ['.'] ++ '/' :: (roundabout k).toList :=
      toList_roundabout_succ k
    have hdot : FilePath.parts ['.'] = ["."] := by decide
    rw [hchars, FilePath.parts_append_slash, ih, hdot, List.replicate_succ]
    rfl

theorem follow_replicate_dot (k : Nat) (above : List FileTree) (ns : List String) :
    FileSystem.follow above (.directory entries) (List.replicate k "." ++ ns) =
      FileSystem.follow above (.directory entries) ns := by
  induction k with
  | zero => rfl
  | succ k ih =>
    rw [List.replicate_succ, List.cons_append, FileSystem.follow.eq_def]
    exact ih

theorem listDirectory_roundabout {k : Nat} (hk : 2 * k + 1 ≤ FileSystem.maxPath) :
    (directoryOf entries).listDirectory (roundabout k) = .ok entries := by
  obtain ⟨hnul, hhead, hlast⟩ := roundabout_chars k
  have hne := roundabout_ne_empty k
  have hsize : ¬ FileSystem.maxPath < (roundabout k).utf8ByteSize := by
    rw [utf8ByteSize_roundabout]
    omega
  have hstart : (directoryOf entries).start (roundabout k) =
      .ok ([], .directory [("d", .directory entries)]) := if_neg hhead
  have hnames : FilePath.names (roundabout k) = List.replicate k "." ++ ["d"] := by
    rw [FilePath.names_eq, hlast, parts_roundabout, if_neg (by decide), List.append_nil]
  have hfind : (directoryOf entries).find (roundabout k) = .ok (.directory entries) := by
    rw [FileSystem.find_eq, if_neg hnul, if_neg hne, if_neg hsize, hstart, hnames]
    show (FileSystem.follow [] (.directory [("d", .directory entries)]) _).map _ = _
    rw [follow_replicate_dot]
    rfl
  unfold FileSystem.listDirectory
  rw [hfind]
  rfl

/-- A root in a directory of its own. -/
def loneRoot : List (String × FileTree) := [("a.pem", .file (bundleText [rootBlock]))]

theorem utf8ByteSize_join_roundabout (k : Nat) :
    (FilePath.join (roundabout k) "a.pem").utf8ByteSize = 2 * k + 7 := by
  obtain ⟨-, hhead, hlast⟩ := roundabout_chars k
  have hne := roundabout_ne_empty k
  have hslash : (roundabout k).toList.getLast? ≠ some '/' := by
    rw [hlast]
    decide
  have hone : "/".utf8ByteSize = 1 := rfl
  have hfive : "a.pem".utf8ByteSize = 5 := rfl
  rw [FilePath.join_of_no_slash hne hslash, String.utf8ByteSize_append, String.utf8ByteSize_append,
    utf8ByteSize_roundabout, hone, hfive]

/-- **A certificate file is left out without an error** where the path of its directory leaves no
room for its name, though its own path cannot be read as a bundle. -/
theorem load_deepDirectory :
    (directoryOf loneRoot).listDirectory (roundabout 2046) = .ok loneRoot ∧ WellNamed loneRoot ∧
      ("a.pem", .file (bundleText [rootBlock])) ∈ loneRoot ∧ HasCertificateExtension "a.pem" ∧
      ((directory (roundabout 2046)).load (directoryOf loneRoot)).outcome = .ok [] ∧
      ((bundle (FilePath.join (roundabout 2046) "a.pem")).load (directoryOf loneRoot)).outcome =
        .error (.trustStore
          (.unreadable (FilePath.join (roundabout 2046) "a.pem") .nameTooLong)) := by
  have hlist : (directoryOf loneRoot).listDirectory (roundabout 2046) = .ok loneRoot :=
    listDirectory_roundabout (by decide)
  have hnamed : WellNamed loneRoot := by decide
  have hlong : FileSystem.maxPath < (FilePath.join (roundabout 2046) "a.pem").utf8ByteSize := by
    rw [utf8ByteSize_join_roundabout]
    decide
  refine ⟨hlist, hnamed, List.mem_cons_self, isCertificateName_iff.mp (by decide), ?_,
    load_bundle_of_long hlist (by decide) hlong⟩
  apply load_directory_of_long hlist hnamed
  unfold loneRoot
  rw [List.forall_mem_singleton]
  exact hlong

end StoreSource

end ChainOfTrust
