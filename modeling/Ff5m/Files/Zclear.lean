import Ff5m.Files.Tree
import Ff5m.Text.Regex

/-!
# Clearing the data partition

`zclear.sh` removes what a print job leaves below `/data`: with its first argument 1 the
log files, with its second argument 1 everything but the mod, the recovered files and the
log files.  The second part walks the tree twice, first over the files and then over the
directories, and the two walks leave out different paths.

* `mem_zclear`: what is left after the two walks, by the name below `/data`;
* `zclear_exact_iff`: no file has the name of a protected directory, no name extends a
  protected name, and the log files lie in no directories of their own.
-/

namespace Zclear

open TextTools (Text str bre matchAll literal matchAll_prefix_iff takeWhile_ne_append)
open Files

/-! ## The script -/

/-- The path as `find /data/` writes it. -/
def pathText (p : Path) : Text := str "/data/" ++ List.intercalate ['/'] p

/-- The test of the first walk. -/
def removesFile (p : Path) : Bool :=
  !matchAll (bre "/data/lost+found/.*") (pathText p) && !matchAll (bre "/data/\\.mod/.*") (pathText p) &&
    !matchAll (bre "/data/logFiles.*") (pathText p)

/-- The test of the second walk. -/
def removesDir (p : Path) : Bool :=
  !matchAll (bre "/data/\\.mod.*") (pathText p) && !matchAll (bre "/data/lost+found.*") (pathText p) &&
    pathText p != str "/data/" && pathText p != str "/data/logFiles"

/-- The paths that the shell puts for `/data/logFiles/*`: without the hidden names. -/
def logFilesGlob (t : Tree) : List Path :=
  (t.entries.map Prod.fst).filter fun p =>
    match p with
    | [d, n] => d == str "logFiles" && n.head? != some '.'
    | _ => false

/-- `rm -rf /data/logFiles/*`, with the first argument 1. -/
def clearLogs (arg : Text) (t : Tree) : Tree :=
  if arg = str "1" then (logFilesGlob t).foldl Tree.rmRecursive t else t

/-- The first walk. -/
def clearFiles (order : List Path) (t : Tree) : Tree := findExec Tree.isFile removesFile Tree.rm order t

/-- The second walk. -/
def clearDirs (order : List Path) (t : Tree) : Tree :=
  findExec Tree.isDir removesDir Tree.rmRecursive order t

/-- The order visits every entry. -/
def Visits (order : List Path) (t : Tree) : Prop := ∀ e ∈ t.entries, e.1 ∈ order

instance (order : List Path) (t : Tree) : Decidable (Visits order t) :=
  inferInstanceAs (Decidable (∀ e ∈ t.entries, e.1 ∈ order))

/-- `zclear.sh` with the second argument 1, the two walks in the given orders. -/
def zclear (arg : Text) (files dirs : List Path) (t : Tree) : Tree :=
  clearDirs dirs (clearFiles files (clearLogs arg t))

/-! ## Texts of paths -/

section Paths

variable {w c : Text} {rest p : Path}

/-- What begins the text of a path, without a slash, begins the first name. -/
theorem prefix_intercalate_iff (hw : '/' ∉ w) :
    w <+: List.intercalate ['/'] (c :: rest) ↔ w <+: c := by
  cases rest with
  | nil => rw [List.intercalate_singleton]
  | cons d rest =>
    rw [List.intercalate_cons_cons, List.append_assoc]
    constructor
    · intro h
      rcases List.prefix_or_prefix_of_prefix h (List.prefix_append c _) with h' | ⟨v, rfl⟩
      · exact h'
      · have hv : v <+: '/' :: List.intercalate ['/'] (d :: rest) :=
          (List.prefix_append_right_inj c).1 h
        cases v with
        | nil => simp
        | cons x v =>
          obtain ⟨rfl, -⟩ := List.cons_prefix_cons.1 hv
          simp at hw
    · exact fun h => h.trans (List.prefix_append c _)

/-- With a slash behind it, it is the first name of several. -/
theorem prefix_slash_intercalate_iff (hw : '/' ∉ w) (hc : '/' ∉ c) :
    w ++ ['/'] <+: List.intercalate ['/'] (c :: rest) ↔ c = w ∧ rest ≠ [] := by
  cases rest with
  | nil =>
    rw [List.intercalate_singleton]
    refine iff_of_false ?_ (by simp)
    rintro ⟨v, rfl⟩
    simp at hc
  | cons d rest =>
    rw [List.intercalate_cons_cons, List.append_assoc]
    constructor
    · rintro ⟨v, hv⟩
      have htake := congrArg (List.takeWhile (· ≠ '/')) hv
      rw [List.append_assoc, List.singleton_append, List.singleton_append, takeWhile_ne_append hw,
        takeWhile_ne_append hc] at htake
      exact ⟨htake.symm, by simp⟩
    · rintro ⟨rfl, -⟩
      rw [← List.append_assoc]
      exact List.prefix_append _ _

/-- A text without a slash is that of a single name. -/
theorem intercalate_eq_iff (hw : '/' ∉ w) :
    List.intercalate ['/'] (c :: rest) = w ↔ c = w ∧ rest = [] := by
  cases rest with
  | nil => simp [List.intercalate_singleton]
  | cons d rest =>
    rw [List.intercalate_cons_cons]
    refine iff_of_false ?_ (by simp)
    rintro rfl
    simp at hw

/-- A pattern with `.*` behind it looks at the beginning of the path. -/
theorem matchAll_pathText_iff {s : String} {w : Text}
    (hs : bre s = literal (str "/data/" ++ w) ++ [⟨.any, true⟩]) :
    matchAll (bre s) (pathText p) = true ↔ w <+: List.intercalate ['/'] p := by
  rw [hs, matchAll_prefix_iff, pathText, List.prefix_append_right_inj]

/-! ## The tests -/

theorem removesFile_iff (hc : '/' ∉ c) :
    removesFile (c :: rest) = false ↔
      (c = str "lost+found" ∧ rest ≠ []) ∨ (c = str ".mod" ∧ rest ≠ []) ∨ str "logFiles" <+: c := by
  have hlost : bre "/data/lost+found/.*" =
      literal (str "/data/" ++ (str "lost+found" ++ ['/'])) ++ [⟨.any, true⟩] := by decide +kernel
  have hmod : bre "/data/\\.mod/.*" =
      literal (str "/data/" ++ (str ".mod" ++ ['/'])) ++ [⟨.any, true⟩] := by decide +kernel
  have hlog : bre "/data/logFiles.*" = literal (str "/data/" ++ str "logFiles") ++ [⟨.any, true⟩] := by
    decide +kernel
  simp only [removesFile, Bool.and_eq_false_iff, Bool.not_eq_false', matchAll_pathText_iff hlost,
    matchAll_pathText_iff hmod, matchAll_pathText_iff hlog, or_assoc]
  rw [prefix_slash_intercalate_iff (by decide) hc, prefix_slash_intercalate_iff (by decide) hc,
    prefix_intercalate_iff (by decide)]

theorem removesDir_iff (hc : c ≠ []) :
    removesDir (c :: rest) = false ↔
      str ".mod" <+: c ∨ str "lost+found" <+: c ∨ c = str "logFiles" ∧ rest = [] := by
  have hmod : bre "/data/\\.mod.*" = literal (str "/data/" ++ str ".mod") ++ [⟨.any, true⟩] := by
    decide +kernel
  have hlost : bre "/data/lost+found.*" = literal (str "/data/" ++ str "lost+found") ++ [⟨.any, true⟩] := by
    decide +kernel
  have hroot : pathText (c :: rest) ≠ str "/data/" := by
    rw [pathText, Ne, List.append_right_eq_self, intercalate_eq_iff (by simp)]
    exact fun h => hc h.1
  have hlog : pathText (c :: rest) = str "/data/logFiles" ↔ c = str "logFiles" ∧ rest = [] := by
    rw [show str "/data/logFiles" = str "/data/" ++ str "logFiles" by decide, pathText,
      List.append_right_inj, intercalate_eq_iff (by decide)]
  simp only [removesDir, Bool.and_eq_false_iff, Bool.not_eq_false', matchAll_pathText_iff hmod,
    matchAll_pathText_iff hlost, or_assoc, bne_eq_false_iff_eq, hroot, hlog, false_or]
  rw [prefix_intercalate_iff (by decide), prefix_intercalate_iff (by decide)]

/-- A directory is left out with those around it. -/
theorem removesDir_above {q : Path} (hnames : ∀ n ∈ p, n ≠ []) (h : removesDir p = false)
    (hq : q <+: p) : removesDir q = false := by
  obtain ⟨s, rfl⟩ := hq
  cases q with
  | nil => decide +kernel
  | cons c q =>
    have hc : c ≠ [] := hnames c (by simp)
    rw [List.cons_append, removesDir_iff hc] at h
    rw [removesDir_iff hc]
    rcases h with h | h | ⟨h, hq⟩
    · exact Or.inl h
    · exact Or.inr (Or.inl h)
    · exact Or.inr (Or.inr ⟨h, (List.append_eq_nil_iff.1 hq).1⟩)

end Paths

/-! ## What is left -/

/-- The directory of an entry: itself, or what it lies in. -/
def around (e : Path × Entry) : Path := if e.2 = .dir then e.1 else e.1.dropLast

section Walks

variable {files dirs : List Path} {t : Tree} {e : Path × Entry}

theorem mem_clearFiles (h : Visits files t) :
    e ∈ (clearFiles files t).entries ↔ e ∈ t.entries ∧ ¬ (e.2 ≠ .dir ∧ removesFile e.1 = true) :=
  mem_findExec_rm h

/-- The second walk leaves what has a directory that it leaves out. -/
theorem mem_clearDirs (h : Visits dirs t) :
    e ∈ (clearDirs dirs t).entries ↔ e ∈ t.entries ∧ removesDir (around e) = false := by
  rw [clearDirs, mem_findExec_rmRecursive]
  apply and_congr_right
  intro he
  have hnames : ∀ n ∈ e.1, n ≠ [] := fun n hn => (t.names e he n hn).1
  have hpath : around e <+: e.1 := by
    rw [around]
    split_ifs
    · exact List.prefix_refl _
    · exact List.dropLast_prefix _
  constructor
  · intro hall
    by_cases hnil : around e = []
    · rw [hnil]
      decide +kernel
    have hdir : (around e, Entry.dir) ∈ t.entries := by
      by_cases hfile : e.2 = .dir
      · rw [around, if_pos hfile, ← hfile]
        exact he
      · refine t.dir_above he hpath ?_ hnil
        rw [around, if_neg hfile]
        intro heq
        have hlen := congrArg List.length heq
        have hpos := List.length_pos_iff.2 (t.nonempty e he)
        rw [List.length_dropLast] at hlen
        omega
    exact hall _ (h _ hdir) hpath (isDir_iff.2 (Or.inr hdir))
  · intro haround q _ hq hqdir
    rcases isDir_iff.1 hqdir with rfl | hqdir
    · decide +kernel
    refine removesDir_above (fun n hn => hnames n (hpath.subset hn)) haround ?_
    rw [around]
    split_ifs with hfile
    · exact hq
    · -- a file is no directory, so the directory lies above it
      have hne : q ≠ e.1 := by
        rintro rfl
        exact hfile (t.entry_eq he hqdir)
      rw [← List.dropLast_append_getLast (t.nonempty e he), List.prefix_concat_iff,
        List.dropLast_append_getLast] at hq
      exact hq.resolve_left hne

/-- What the two walks leave, by the name below `/data`. -/
def Survives : Path × Entry → Prop
  | ([], _) => False
  | (c :: rest, .dir) => str ".mod" <+: c ∨ str "lost+found" <+: c ∨ c = str "logFiles" ∧ rest = []
  | ([c], .file _) => str "logFiles" <+: c
  | (c :: _ :: rest, .file _) =>
    c = str ".mod" ∨ c = str "lost+found" ∨ c = str "logFiles" ∧ rest = []

theorem survives_iff (he : e ∈ t.entries) :
    removesDir (around e) = false ∧ ¬ (e.2 ≠ .dir ∧ removesFile e.1 = true) ↔ Survives e := by
  obtain ⟨p, k⟩ := e
  cases p with
  | nil => exact absurd rfl (t.nonempty _ he)
  | cons c rest =>
    obtain ⟨hc, hslash⟩ := t.names _ he c (by simp)
    cases k with
    | dir => simp [around, Survives, removesDir_iff hc]
    | file content =>
      have hfile : ¬ ((Entry.file content) ≠ .dir ∧ removesFile (c :: rest) = true) ↔
          removesFile (c :: rest) = false := by simp
      rw [hfile, removesFile_iff hslash]
      cases rest with
      | nil =>
        have hroot : removesDir [] = false := by decide +kernel
        simp [around, Survives, hroot]
      | cons d rest =>
        simp only [around, Survives, reduceCtorEq, if_false, List.dropLast_cons_cons, removesDir_iff hc,
          ne_eq, not_false_eq_true, and_true]
        constructor
        · rintro ⟨hdir, h | h | hlog⟩
          · exact Or.inr (Or.inl h)
          · exact Or.inl h
          · -- of two beginnings of a name one begins the other
            rcases hdir with h | h | ⟨h, hrest⟩
            · have hcmp := List.prefix_or_prefix_of_prefix h hlog
              exact absurd hcmp (by decide)
            · have hcmp := List.prefix_or_prefix_of_prefix h hlog
              exact absurd hcmp (by decide)
            · refine Or.inr (Or.inr ⟨h, ?_⟩)
              cases rest with
              | nil => rfl
              | cons x rest => simp at hrest
        · rintro (h | h | ⟨h, hrest⟩)
          · exact ⟨Or.inl (h ▸ List.prefix_refl _), Or.inr (Or.inl h)⟩
          · exact ⟨Or.inr (Or.inl (h ▸ List.prefix_refl _)), Or.inl h⟩
          · exact ⟨Or.inr (Or.inr ⟨h, by simp [hrest]⟩), Or.inr (Or.inr (h ▸ List.prefix_refl _))⟩

/-- What the script leaves. -/
theorem mem_walks (hfiles : Visits files t) (hdirs : Visits dirs (clearFiles files t)) :
    e ∈ (clearDirs dirs (clearFiles files t)).entries ↔ e ∈ t.entries ∧ Survives e := by
  rw [mem_clearDirs hdirs, mem_clearFiles hfiles, and_assoc]
  apply and_congr_right
  intro he
  rw [and_comm, survives_iff he]

end Walks

/-! ## What should be left -/

/-- Below `/data`, the mod, the recovered files and the log files. -/
def Protected : Path → Prop
  | [] => False
  | c :: _ => c = str ".mod" ∨ c = str "lost+found" ∨ c = str "logFiles"

/-- The two walks agree about the entry: no file has the name of a protected directory, no
name extends a protected name, and the log files lie in no directories. -/
def Clean : Path × Entry → Prop
  | ([c], .file _) => c ≠ str ".mod" ∧ c ≠ str "lost+found" ∧ (str "logFiles" <+: c → c = str "logFiles")
  | ([c], .dir) =>
    (str ".mod" <+: c → c = str ".mod") ∧ (str "lost+found" <+: c → c = str "lost+found")
  | ([c, _], .dir) => c ≠ str "logFiles"
  | _ => True

section Exact

variable {t : Tree} {e : Path × Entry}

/-- An entry that the walks disagree about is left or removed wrongly. -/
theorem clean_of_survives_iff (h : Survives e ↔ Protected e.1) : Clean e := by
  obtain ⟨p, k⟩ := e
  match p, k with
  | [], .file _ => trivial
  | [], .dir => trivial
  | [c], .file _ =>
    refine ⟨?_, ?_, ?_⟩
    · rintro rfl
      exact absurd (h.2 (Or.inl rfl)) (by simp only [Survives]; decide)
    · rintro rfl
      exact absurd (h.2 (Or.inr (Or.inl rfl))) (by simp only [Survives]; decide)
    · intro hlog
      rcases h.1 hlog with rfl | rfl | rfl
      · exact absurd hlog (by decide)
      · exact absurd hlog (by decide)
      · rfl
  | [c], .dir =>
    constructor
    · intro hmod
      rcases h.1 (Or.inl hmod) with rfl | rfl | rfl
      · rfl
      · exact absurd hmod (by decide)
      · exact absurd hmod (by decide)
    · intro hlost
      rcases h.1 (Or.inr (Or.inl hlost)) with rfl | rfl | rfl
      · exact absurd hlost (by decide)
      · rfl
      · exact absurd hlost (by decide)
  | [c, d], .dir =>
    rintro rfl
    rcases h.2 (Or.inr (Or.inr rfl)) with h | h | ⟨-, h⟩
    · exact absurd h (by decide)
    · exact absurd h (by decide)
    · exact absurd h (by simp)
  | [_, _], .file _ => trivial
  | _ :: _ :: _ :: _, .file _ => trivial
  | _ :: _ :: _ :: _, .dir => trivial

/-- A directory below `/data` whose entries are clean is left when it is protected. -/
theorem survives_dir_iff {c : Text} {rest : Path} (hclean : ∀ e ∈ t.entries, Clean e)
    (he : (c :: rest, Entry.dir) ∈ t.entries) : Survives (c :: rest, .dir) ↔ Protected (c :: rest) := by
  have htop : ([c], Entry.dir) ∈ t.entries := by
    cases rest with
    | nil => exact he
    | cons d rest => exact t.dir_above he (by simp) (by simp) (by simp)
  obtain ⟨hmod, hlost⟩ := hclean _ htop
  constructor
  · rintro (h | h | ⟨h, -⟩)
    · exact Or.inl (hmod h)
    · exact Or.inr (Or.inl (hlost h))
    · exact Or.inr (Or.inr h)
  · rintro (rfl | rfl | rfl)
    · exact Or.inl (List.prefix_refl _)
    · exact Or.inr (Or.inl (List.prefix_refl _))
    · refine Or.inr (Or.inr ⟨rfl, ?_⟩)
      cases rest with
      | nil => rfl
      | cons d rest =>
        have hsub : ([str "logFiles", d], Entry.dir) ∈ t.entries := by
          cases rest with
          | nil => exact he
          | cons x rest => exact t.dir_above he (by simp) (by simp) (by simp)
        exact absurd rfl (hclean _ hsub)

/-- When the walks agree about all entries, they leave the protected ones. -/
theorem survives_iff_of_clean (hclean : ∀ e ∈ t.entries, Clean e) (he : e ∈ t.entries) :
    Survives e ↔ Protected e.1 := by
  obtain ⟨p, k⟩ := e
  match p, k with
  | [], _ => exact Iff.rfl
  | c :: rest, .dir => exact survives_dir_iff hclean he
  | [c], .file content =>
    obtain ⟨hmod, hlost, hlog⟩ := hclean _ he
    constructor
    · exact fun h => Or.inr (Or.inr (hlog h))
    · rintro (h | h | h)
      · exact absurd h hmod
      · exact absurd h hlost
      · exact h ▸ List.prefix_refl _
  | c :: d :: rest, .file content =>
    constructor
    · rintro (h | h | ⟨h, -⟩)
      · exact Or.inl h
      · exact Or.inr (Or.inl h)
      · exact Or.inr (Or.inr h)
    · rintro (h | h | rfl)
      · exact Or.inl h
      · exact Or.inr (Or.inl h)
      · refine Or.inr (Or.inr ⟨rfl, ?_⟩)
        cases rest with
        | nil => rfl
        | cons x rest =>
          exact absurd rfl (hclean _ (t.dir_above (q := [str "logFiles", d]) he (by simp) (by simp) (by simp)))

end Exact

/-! ## The script -/

section Script

variable {arg : Text} {t : Tree}

/-- Without visible log files, or without the first argument 1, there is nothing to clear
before the walks. -/
theorem clearLogs_eq_self (h : arg ≠ str "1" ∨ logFilesGlob t = []) : clearLogs arg t = t := by
  rw [clearLogs]
  split_ifs with harg
  · rw [h.resolve_left (not_not.2 harg)]
    rfl
  · rfl

theorem mem_rmAll {ps : List Path} {e : Path × Entry} :
    e ∈ (ps.foldl Tree.rmRecursive t).entries ↔ e ∈ t.entries ∧ ∀ p ∈ ps, ¬ p <+: e.1 := by
  induction ps generalizing t with
  | nil => simp
  | cons p ps ih => rw [List.foldl_cons, ih, mem_rmRecursive, and_assoc, List.forall_mem_cons]

/-- The log files that the first argument removes are protected. -/
theorem not_exact_of_glob {p : Path} (harg : arg = str "1") (hp : p ∈ logFilesGlob t) :
    ∃ e ∈ t.entries, Protected e.1 ∧ e ∉ (clearLogs arg t).entries := by
  obtain ⟨hp', hglob⟩ := List.mem_filter.1 hp
  obtain ⟨e, he, rfl⟩ := List.mem_map.1 hp'
  refine ⟨e, he, ?_, ?_⟩
  · obtain ⟨p, k⟩ := e
    match p with
    | [] => simp at hglob
    | [_] => simp at hglob
    | [c, d] =>
      simp only [Bool.and_eq_true, beq_iff_eq] at hglob
      exact Or.inr (Or.inr hglob.1)
    | _ :: _ :: _ :: _ => simp at hglob
  · rw [clearLogs, if_pos harg, mem_rmAll]
    exact fun h => h.2 _ hp (List.prefix_refl _)

/-- The script leaves exactly the protected entries when the first argument is not 1, or
there are no visible log files, and the two walks agree about every entry. -/
theorem zclear_exact_iff (arg : Text) (files dirs : List Path) (t : Tree)
    (hfiles : Visits files (clearLogs arg t)) (hdirs : Visits dirs (clearFiles files (clearLogs arg t))) :
    (∀ e, e ∈ (zclear arg files dirs t).entries ↔ e ∈ t.entries ∧ Protected e.1) ↔
      (arg ≠ str "1" ∨ logFilesGlob t = []) ∧ ∀ e ∈ t.entries, Clean e := by
  have hleft : ∀ e, e ∈ (zclear arg files dirs t).entries ↔ e ∈ (clearLogs arg t).entries ∧ Survives e :=
    fun e => mem_walks hfiles hdirs
  constructor
  · intro h
    have hlogs : arg ≠ str "1" ∨ logFilesGlob t = [] := by
      by_contra hno
      rw [not_or, not_not] at hno
      obtain ⟨p, hp⟩ := List.exists_mem_of_ne_nil _ hno.2
      obtain ⟨e, he, hprot, hgone⟩ := not_exact_of_glob hno.1 hp
      exact hgone ((hleft e).1 ((h e).2 ⟨he, hprot⟩)).1
    refine ⟨hlogs, fun e he => ?_⟩
    rw [clearLogs_eq_self hlogs] at hleft
    have heq := (hleft e).symm.trans (h e)
    exact clean_of_survives_iff (by simpa [he] using heq)
  · rintro ⟨hlogs, hclean⟩ e
    rw [hleft, clearLogs_eq_self hlogs]
    exact and_congr_right fun he => survives_iff_of_clean hclean he

end Script

/-! ## A print job and an old log -/

/-- A data partition with the mod, a log file and a print job. -/
def jobTree : Tree where
  entries := [([str ".mod"], .dir), ([str ".mod", str "run.sh"], .file (str "x")), ([str "logFiles"], .dir),
    ([str "logFiles", str "klippy.log"], .file (str "y")), ([str "job.gcode"], .file (str "z"))]
  names := by decide +kernel
  nonempty := by decide +kernel
  unique := by decide +kernel
  parents := by decide +kernel

/-- The job is removed and the rest is left. -/
theorem zclear_job :
    ([str "job.gcode"], Entry.file (str "z")) ∉
        (zclear (str "0") (jobTree.entries.map Prod.fst) (jobTree.entries.map Prod.fst) jobTree).entries ∧
      ([str "logFiles", str "klippy.log"], Entry.file (str "y")) ∈
        (zclear (str "0") (jobTree.entries.map Prod.fst) (jobTree.entries.map Prod.fst) jobTree).entries := by
  have hclean : ∀ e ∈ jobTree.entries, Clean e := by
    intro e he
    simp only [jobTree, List.mem_cons, List.not_mem_nil, or_false] at he
    rcases he with rfl | rfl | rfl | rfl | rfl <;> simp only [Clean] <;> decide +kernel
  have hexact := (zclear_exact_iff (str "0") (jobTree.entries.map Prod.fst) (jobTree.entries.map Prod.fst)
    jobTree (by decide +kernel) (by decide +kernel)).2 ⟨Or.inl (by decide), hclean⟩
  constructor
  · rw [hexact]
    rintro ⟨-, h⟩
    simp only [Protected] at h
    exact absurd h (by decide)
  · rw [hexact]
    exact ⟨by decide +kernel, Or.inr (Or.inr rfl)⟩

/-- A data partition with a log file in a directory of its own. -/
def oldLogTree : Tree where
  entries := [([str "logFiles"], .dir), ([str "logFiles", str "old"], .dir),
    ([str "logFiles", str "old", str "klippy.log"], .file (str "y"))]
  names := by decide +kernel
  nonempty := by decide +kernel
  unique := by decide +kernel
  parents := by decide +kernel

/-- The old log file is removed. -/
theorem zclear_old_log :
    ¬ ∀ e, e ∈ (zclear (str "0") (oldLogTree.entries.map Prod.fst) (oldLogTree.entries.map Prod.fst)
        oldLogTree).entries ↔ e ∈ oldLogTree.entries ∧ Protected e.1 := by
  intro h
  have hgone : ([str "logFiles", str "old", str "klippy.log"], Entry.file (str "y")) ∉
      (zclear (str "0") (oldLogTree.entries.map Prod.fst) (oldLogTree.entries.map Prod.fst)
        oldLogTree).entries := by decide +kernel
  exact hgone ((h _).2 ⟨by decide +kernel, Or.inr (Or.inr rfl)⟩)

end Zclear
