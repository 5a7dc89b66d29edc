import Ff5m.Text.Lines

/-!
# Trees of files

A directory tree as the list of its entries below one directory.  The structure `Tree`
carries what makes a list of entries a tree; removing an entry, alone or with all that is
below it, keeps it.

`findExec` is `find … -exec … {} \;` in any order of the visits: `mem_findExec_rm` and
`mem_findExec_rmRecursive` say what is left when it removes files and directories.
-/

namespace Files

open TextTools (Text str)

/-! ## Trees -/

/-- The names on the way to an entry. -/
abbrev Path := List Text

/-- A regular file or a directory. -/
inductive Entry where
  | file (content : Text)
  | dir
  deriving DecidableEq

/-- A tree: every entry has a path of names, no path twice, and what an entry lies in is a
directory. -/
structure Tree where
  entries : List (Path × Entry)
  names : ∀ e ∈ entries, ∀ n ∈ e.1, n ≠ [] ∧ '/' ∉ n
  nonempty : ∀ e ∈ entries, e.1 ≠ []
  unique : (entries.map Prod.fst).Nodup
  parents : ∀ e ∈ entries, e.1.dropLast ≠ [] → (e.1.dropLast, Entry.dir) ∈ entries

/-- A path is that of one entry. -/
theorem Tree.entry_eq (t : Tree) {p : Path} {e e' : Entry} (h : (p, e) ∈ t.entries)
    (h' : (p, e') ∈ t.entries) : e = e' :=
  congrArg Prod.snd (List.inj_on_of_nodup_map t.unique h h' rfl)

/-- What an entry lies below is a directory. -/
theorem Tree.dir_above (t : Tree) {p q : Path} {e : Entry} (h : (p, e) ∈ t.entries)
    (hq : q <+: p) (hne : q ≠ p) (hnil : q ≠ []) : (q, Entry.dir) ∈ t.entries := by
  obtain ⟨s, rfl⟩ := hq
  induction s using List.reverseRecOn generalizing e with
  | nil => exact absurd (List.append_nil q).symm hne
  | append_singleton s n ih =>
    rw [← List.append_assoc] at h
    have hdir : (q ++ s, Entry.dir) ∈ t.entries := by
      simpa using t.parents _ h (by simp [hnil])
    by_cases hs : s = []
    · rwa [hs, List.append_nil] at hdir
    · exact ih hdir (by simpa using hs)

/-- The path is that of a file. -/
def Tree.isFile (t : Tree) (p : Path) : Bool :=
  t.entries.any fun e => e.1 == p && e.2 != .dir

/-- The path is that of a directory, such as the one the tree is below. -/
def Tree.isDir (t : Tree) (p : Path) : Bool := p == [] || t.entries.contains (p, .dir)

/-- The entries that pass a test, when with an entry the directory around it passes. -/
def Tree.keep (t : Tree) (f : Path × Entry → Bool)
    (hf : ∀ e ∈ t.entries, f e = true → f (e.1.dropLast, .dir) = true) : Tree where
  entries := t.entries.filter f
  names := fun e he => t.names e (List.mem_filter.1 he).1
  nonempty := fun e he => t.nonempty e (List.mem_filter.1 he).1
  unique := t.unique.sublist (List.filter_sublist.map _)
  parents := by
    intro e he hp
    obtain ⟨he, hfe⟩ := List.mem_filter.1 he
    exact List.mem_filter.2 ⟨t.parents e he hp, hf e he hfe⟩

/-- `rm`: removes a file. -/
def Tree.rm (t : Tree) (p : Path) : Tree :=
  t.keep (fun e => !(e.1 == p && e.2 != .dir)) (by simp)

/-- `rm -r`: removes an entry with all that is below it. -/
def Tree.rmRecursive (t : Tree) (p : Path) : Tree :=
  t.keep (fun e => !p.isPrefixOf e.1) (by
    intro e _ h
    rw [Bool.not_eq_true', ← Bool.not_eq_true, List.isPrefixOf_iff_prefix] at h ⊢
    intro hp
    have habove := List.dropLast_prefix e.1
    exact h (hp.trans habove))

/-- `find -type … -exec … {} \;`: each path that is visited is acted on if it passes the
test; one that is gone by then is passed over. -/
def findExec (type : Tree → Path → Bool) (test : Path → Bool) (act : Tree → Path → Tree)
    (order : List Path) (t : Tree) : Tree :=
  order.foldl (fun t p => if type t p && test p then act t p else t) t

section Find

variable {t : Tree} {p : Path} {e : Path × Entry} {test : Path → Bool} {order : List Path}

theorem mem_rm : e ∈ (t.rm p).entries ↔ e ∈ t.entries ∧ ¬ (e.1 = p ∧ e.2 ≠ .dir) := by
  rw [Tree.rm, Tree.keep, List.mem_filter]
  simp [imp_iff_not_or]

theorem mem_rmRecursive : e ∈ (t.rmRecursive p).entries ↔ e ∈ t.entries ∧ ¬ p <+: e.1 := by
  rw [Tree.rmRecursive, Tree.keep, List.mem_filter, Bool.not_eq_true', ← Bool.not_eq_true,
    List.isPrefixOf_iff_prefix]

theorem isFile_iff : t.isFile p = true ↔ ∃ e ∈ t.entries, e.1 = p ∧ e.2 ≠ .dir := by
  simp [Tree.isFile, List.any_eq_true]

theorem isDir_iff : t.isDir p = true ↔ p = [] ∨ (p, Entry.dir) ∈ t.entries := by
  simp [Tree.isDir]

/-- A walk that removes files leaves the directories and the files that fail the test. -/
theorem mem_findExec_rm (hall : ∀ e ∈ t.entries, e.1 ∈ order) :
    e ∈ (findExec Tree.isFile test Tree.rm order t).entries ↔
      e ∈ t.entries ∧ ¬ (e.2 ≠ .dir ∧ test e.1 = true) := by
  suffices h : e ∈ (findExec Tree.isFile test Tree.rm order t).entries ↔
      e ∈ t.entries ∧ ¬ (e.1 ∈ order ∧ e.2 ≠ .dir ∧ test e.1 = true) by
    rw [h]
    constructor
    · rintro ⟨he, hno⟩
      exact ⟨he, fun hf => hno ⟨hall e he, hf⟩⟩
    · rintro ⟨he, hno⟩
      exact ⟨he, fun hf => hno hf.2⟩
  clear hall
  induction order generalizing t with
  | nil => simp [findExec]
  | cons p order ih =>
    rw [findExec, List.foldl_cons, ← findExec, ih]
    split_ifs with hp
    · obtain ⟨-, htest⟩ := Bool.and_eq_true_iff.1 hp
      rw [mem_rm, List.mem_cons, and_assoc]
      apply and_congr_right
      intro _
      constructor
      · rintro ⟨hnot, hno⟩ ⟨rfl | hin, hf, ht⟩
        · exact hnot ⟨rfl, hf⟩
        · exact hno ⟨hin, hf, ht⟩
      · intro hno
        refine ⟨?_, fun h => hno ⟨Or.inr h.1, h.2⟩⟩
        rintro ⟨rfl, hf⟩
        exact hno ⟨Or.inl rfl, hf, htest⟩
    · rw [List.mem_cons]
      apply and_congr_right
      intro he
      apply not_congr
      constructor
      · rintro ⟨hin, hf⟩
        exact ⟨Or.inr hin, hf⟩
      · rintro ⟨rfl | hin, hf, ht⟩
        · exact absurd (Bool.and_eq_true_iff.2 ⟨isFile_iff.2 ⟨e, he, rfl, hf⟩, ht⟩) hp
        · exact ⟨hin, hf, ht⟩

/-- The directories above what a removal leaves are left as well. -/
theorem isDir_rmRecursive {q : Path} (h : ¬ p <+: q) : (t.rmRecursive p).isDir q = t.isDir q := by
  rw [Bool.eq_iff_iff, isDir_iff, isDir_iff, mem_rmRecursive]
  simp [h]

/-- A walk that removes directories leaves what has no directory above it, itself included,
that passes the test. -/
theorem mem_findExec_rmRecursive :
    e ∈ (findExec Tree.isDir test Tree.rmRecursive order t).entries ↔
      e ∈ t.entries ∧ ∀ q ∈ order, q <+: e.1 → t.isDir q = true → test q = false := by
  induction order generalizing t with
  | nil => simp [findExec]
  | cons p order ih =>
    rw [findExec, List.foldl_cons, ← findExec, ih]
    split_ifs with hp
    · obtain ⟨hdir, htest⟩ := Bool.and_eq_true_iff.1 hp
      rw [mem_rmRecursive, and_assoc]
      apply and_congr_right
      intro _
      constructor
      · rintro ⟨hnot, hall⟩ q hq hqe hqdir
        have hpq : ¬ p <+: q := fun h => hnot (h.trans hqe)
        rcases List.mem_cons.1 hq with rfl | hq
        · exact absurd (List.prefix_refl _) hpq
        · exact hall q hq hqe (by rwa [isDir_rmRecursive hpq])
      · intro hall
        have hnot : ¬ p <+: e.1 := by
          intro hpe
          rw [hall p (by simp) hpe hdir] at htest
          exact Bool.noConfusion htest
        refine ⟨hnot, fun q hq hqe hqdir => hall q (by simp [hq]) hqe ?_⟩
        rwa [isDir_rmRecursive fun h => hnot (h.trans hqe)] at hqdir
    · apply and_congr_right
      intro _
      constructor
      · intro hall q hq hqe hqdir
        rcases List.mem_cons.1 hq with rfl | hq
        · by_contra htest
          exact hp (Bool.and_eq_true_iff.2 ⟨hqdir, by simpa using htest⟩)
        · exact hall q hq hqe hqdir
      · exact fun hall q hq => hall q (by simp [hq])

end Find

end Files
