import Ff5m.Text.Edit

/-!
# The cloud names in `/etc/hosts`

`fix_config` keeps the printer from calling its maker: `china_block` writes a line for a
host name into `/etc/hosts` unless a line with the name is there, and `china_razbl`
deletes the lines with the name.  Both look for the name as a pattern, whose dots match
any character, anywhere in a line.

* `unblockPass_eq`: the unblocking pass is one deletion;
* `blockPass_unblockPass`: it forgets any number of blocking passes;
* `blocked_blockPass_iff`: when a blocking pass leaves a name blocked;
* `meets_iff`: every name is blocked already, or is not `polar3d.com` and matches no line
  of a text of two lines or more; and only lines with a name match one.
-/

namespace Hosts

open TextTools

/-! ## The passes -/

/-- The names that are blocked, in the order of the calls. -/
def names : List String :=
  ["api.cloud.flashforge.com", "api.fdmcloud.flashforge.com", "cloud.sz3dp.com", "hz.sz3dp.com",
    "printer2.polar3d.com", "qvs.qiniuapi.com", "update.cn.sz3dp.com", "update.sz3dp.com",
    "cloud.sz3dp.com", "polar3d.com"]

/-- The line that blocks a name. -/
def entry (name : String) : Line := str "127.0.0.1 " ++ name.toList

/-- `china_razbl`. -/
def chinaRazbl (name : String) (t : Text) : Text :=
  if grepQ (dots name) t then sedDelete (occurs (dots name)) t else t

/-- `china_block`. -/
def chinaBlock (name : String) (t : Text) : Text :=
  if grepQ (dots name) t then t else sedInsert 1 (entry name) t

/-- A call of `china_razbl` for each name. -/
def razblAll (ns : List String) (t : Text) : Text := ns.foldl (fun t name => chinaRazbl name t) t

/-- A call of `china_block` for each name. -/
def blockAll (ns : List String) (t : Text) : Text := ns.foldl (fun t name => chinaBlock name t) t

/-- `grep -q "china_cloud = 1"` on `variables.cfg`. -/
def chinaCloud (vars : Text) : Bool := grepQ (lit "china_cloud = 1") vars

/-- What `fix_config` does to `/etc/hosts`. -/
def fixConfigHosts (vars : Text) (t : Text) : Text :=
  if chinaCloud vars then razblAll names t else blockAll names t

/-- What `restore_base` does to `/etc/hosts`. -/
def restoreBaseHosts (t : Text) : Text := razblAll names t

/-! ## What the file says -/

/-- The blank-separated fields of a line, up to a comment. -/
def fields (l : Line) : List Text :=
  ((l.takeWhile (· ≠ '#')).splitOnP isBlank).filter (· ≠ [])

/-- The line gives a host name the address 127.0.0.1. -/
def Blocks (name : String) (l : Line) : Prop :=
  ∃ hosts, fields l = str "127.0.0.1" :: hosts ∧ name.toList ∈ hosts

/-- Some line blocks the name. -/
def Blocked (name : String) (t : Text) : Prop := ∃ l ∈ lines t, Blocks name l

/-- The line has one of the names in it. -/
def hasName (l : Line) : Bool := names.any fun name => occurs (lit name) l

/-- The line matches the pattern of one of the names. -/
def matchesName (l : Line) : Bool := names.any fun name => occurs (dots name) l

/-- What the two passes are for. -/
structure Meets (t : Text) : Prop where
  blocked : ∀ vars, chinaCloud vars = false →
    ∀ name ∈ names, Blocked name (fixConfigHosts vars t)
  unblocked : (∀ vars, chinaCloud vars = true →
      ∀ l ∈ lines (fixConfigHosts vars t), hasName l = false) ∧
    ∀ l ∈ lines (restoreBaseHosts t), hasName l = false
  kept : (∀ vars, chinaCloud vars = true →
      ((lines t).filter (!hasName ·)).Sublist (lines (fixConfigHosts vars t))) ∧
    ((lines t).filter (!hasName ·)).Sublist (lines (restoreBaseHosts t))
  restored : (∀ l ∈ lines t, hasName l = false) → ∀ block, chinaCloud block = false → ∀ k, 0 < k →
    (∀ unblock, chinaCloud unblock = true →
      fixConfigHosts unblock ((fixConfigHosts block)^[k] t) = t) ∧
    restoreBaseHosts ((fixConfigHosts block)^[k] t) = t

/-! ## One call -/

section Call

variable {name : String} {t : Text} {l : Line}

theorem grepQ_iff {p : Pat} : grepQ p t = true ↔ ∃ l ∈ lines t, occurs p l = true := by
  rw [grepQ, List.any_eq_true]

theorem chinaRazbl_eq (name : String) (t : Text) :
    chinaRazbl name t = sedDelete (occurs (dots name)) t := by
  rw [chinaRazbl]
  split_ifs with h
  · rfl
  · rw [sedDelete_eq_self]
    intro l hl
    by_contra hocc
    exact h (grepQ_iff.2 ⟨l, hl, by simpa using hocc⟩)

theorem newline_not_mem_entry (h : name ∈ names) : '\n' ∉ entry name := by
  revert name
  decide +kernel

/-- A blocking call writes its line when no line matches and there are two lines. -/
theorem mem_lines_chinaBlock (h : name ∈ names) :
    l ∈ lines (chinaBlock name t) ↔
      l ∈ lines t ∨ l = entry name ∧ 1 < (lines t).length ∧ grepQ (dots name) t = false := by
  rw [chinaBlock]
  cases hg : grepQ (dots name) t with
  | true => simp
  | false =>
    rw [if_neg (by simp)]
    by_cases hlen : 1 < (lines t).length
    · rw [lines_sedInsert (newline_not_mem_entry h) hlen, List.mem_append, List.mem_cons,
        or_left_comm, ← List.mem_append, List.take_append_drop]
      simp [hlen, or_comm]
    · rw [sedInsert_of_le (by omega)]
      simp [hlen]

/-- A blocking call never makes a text shorter, nor a short text long. -/
theorem one_lt_lines_chinaBlock (h : name ∈ names) :
    1 < (lines (chinaBlock name t)).length ↔ 1 < (lines t).length := by
  rw [chinaBlock]
  split_ifs
  · rfl
  · by_cases hlen : 1 < (lines t).length
    · rw [lines_sedInsert (newline_not_mem_entry h) hlen]
      simp only [List.length_append, List.length_take, List.length_cons, List.length_drop]
      omega
    · rw [sedInsert_of_le (by omega)]

end Call

/-! ## All calls -/

section Calls

variable {name : String} {ns pre post : List String} {t : Text} {l : Line}

theorem razblAll_eq (ns : List String) (t : Text) :
    razblAll ns t = sedDelete (fun l => ns.any fun name => occurs (dots name) l) t := by
  induction ns generalizing t with
  | nil =>
    rw [sedDelete_eq_self (by simp)]
    rfl
  | cons name ns ih =>
    rw [razblAll, List.foldl_cons, ← razblAll, ih, chinaRazbl_eq, sedDelete_sedDelete]
    rfl

@[simp] theorem blockAll_nil (t : Text) : blockAll [] t = t := rfl

theorem blockAll_cons (name : String) (ns : List String) (t : Text) :
    blockAll (name :: ns) t = blockAll ns (chinaBlock name t) := rfl

theorem blockAll_append (pre post : List String) (t : Text) :
    blockAll (pre ++ post) t = blockAll post (blockAll pre t) :=
  List.foldl_append

theorem one_lt_lines_blockAll (h : ∀ name ∈ ns, name ∈ names) :
    1 < (lines (blockAll ns t)).length ↔ 1 < (lines t).length := by
  induction ns generalizing t with
  | nil => rfl
  | cons name ns ih =>
    rw [blockAll_cons, ih fun m hm => h m (by simp [hm]),
      one_lt_lines_chinaBlock (h name (by simp))]

/-- Blocking keeps every line. -/
theorem mem_lines_blockAll_of_mem (h : ∀ name ∈ ns, name ∈ names) (hl : l ∈ lines t) :
    l ∈ lines (blockAll ns t) := by
  induction ns generalizing t with
  | nil => exact hl
  | cons name ns ih =>
    rw [blockAll_cons]
    exact ih (fun m hm => h m (by simp [hm])) ((mem_lines_chinaBlock (h name (by simp))).2 (Or.inl hl))

theorem grepQ_blockAll (h : ∀ name ∈ ns, name ∈ names) {p : Pat} (hg : grepQ p t = true) :
    grepQ p (blockAll ns t) = true := by
  obtain ⟨l, hl, hp⟩ := grepQ_iff.1 hg
  exact grepQ_iff.2 ⟨l, mem_lines_blockAll_of_mem h hl, hp⟩

/-- A line that blocking wrote is for a name that no line of the text matches. -/
theorem mem_lines_blockAll (h : ∀ name ∈ ns, name ∈ names) (hl : l ∈ lines (blockAll ns t)) :
    l ∈ lines t ∨
      ∃ name ∈ ns, l = entry name ∧ 1 < (lines t).length ∧ grepQ (dots name) t = false := by
  induction ns generalizing t with
  | nil => exact Or.inl hl
  | cons m ns ih =>
    have hm : m ∈ names := h m (by simp)
    rw [blockAll_cons] at hl
    rcases ih (fun n hn => h n (by simp [hn])) hl with hl | ⟨name, hname, rfl, hlen, hg⟩
    · rcases (mem_lines_chinaBlock hm).1 hl with hl | ⟨rfl, hlen, hg⟩
      · exact Or.inl hl
      · exact Or.inr ⟨m, by simp, rfl, hlen, hg⟩
    · refine Or.inr ⟨name, by simp [hname], rfl, (one_lt_lines_chinaBlock hm).1 hlen, ?_⟩
      by_contra hgt
      have hkeep : grepQ (dots name) (blockAll [m] t) = true :=
        grepQ_blockAll (by simpa using hm) (by simpa using hgt)
      rw [blockAll_cons, blockAll_nil, hg] at hkeep
      exact Bool.noConfusion hkeep

/-- A blocking call finds or writes a line that matches its name. -/
theorem grepQ_blockAll_self (h : ∀ name ∈ ns, name ∈ names) (hself : occurs (dots name) (entry name) = true)
    (hname : name ∈ ns) (hlen : 1 < (lines t).length) : grepQ (dots name) (blockAll ns t) = true := by
  obtain ⟨pre, post, rfl⟩ := List.append_of_mem hname
  have hpre : ∀ m ∈ pre, m ∈ names := fun m hm => h m (by simp [hm])
  have hpost : ∀ m ∈ post, m ∈ names := fun m hm => h m (by simp [hm])
  rw [blockAll_append, blockAll_cons]
  apply grepQ_blockAll hpost
  cases hg : grepQ (dots name) (blockAll pre t) with
  | true => rw [chinaBlock, if_pos hg, hg]
  | false =>
    refine grepQ_iff.2 ⟨entry name, (mem_lines_chinaBlock (h name (by simp))).2 (Or.inr ⟨rfl, ?_, hg⟩), hself⟩
    rwa [one_lt_lines_blockAll hpre]

/-- A blocking call writes its line when no line matches the name and no earlier call
writes one that does. -/
theorem entry_mem_lines_blockAll (h : ∀ m ∈ pre ++ name :: post, m ∈ names)
    (hother : ∀ m ∈ pre, occurs (dots name) (entry m) = false) (hlen : 1 < (lines t).length)
    (hg : grepQ (dots name) t = false) :
    entry name ∈ lines (blockAll (pre ++ name :: post) t) := by
  have hpre : ∀ m ∈ pre, m ∈ names := fun m hm => h m (by simp [hm])
  have hpost : ∀ m ∈ post, m ∈ names := fun m hm => h m (by simp [hm])
  rw [blockAll_append, blockAll_cons]
  apply mem_lines_blockAll_of_mem hpost
  refine (mem_lines_chinaBlock (h name (by simp))).2 (Or.inr ⟨rfl, ?_, ?_⟩)
  · rwa [one_lt_lines_blockAll hpre]
  · by_contra hgt
    obtain ⟨l, hl, hocc⟩ := grepQ_iff.1 (by simpa using hgt : grepQ (dots name) (blockAll pre t) = true)
    rcases mem_lines_blockAll hpre hl with hl | ⟨m, hm, rfl, -, -⟩
    · rw [grepQ_iff.2 ⟨l, hl, hocc⟩] at hg
      exact Bool.noConfusion hg
    · rw [hother m hm] at hocc
      exact Bool.noConfusion hocc

end Calls

/-! ## The names -/

/-- A line that blocks a name has it as its only host name. -/
theorem fields_entry : ∀ name ∈ names, fields (entry name) = [str "127.0.0.1", name.toList] := by
  decide +kernel

theorem occurs_entry_self : ∀ name ∈ names, occurs (dots name) (entry name) = true := by
  decide +kernel

/-- No line for another name matches, but for the last name. -/
theorem occurs_entry_other : ∀ name ∈ names, name ≠ "polar3d.com" → ∀ m ∈ names, m ≠ name →
    occurs (dots name) (entry m) = false := by
  decide +kernel

/-- What matches the longer name matches its suffix. -/
theorem occurs_polar3d {l : Line} (h : occurs (dots "printer2.polar3d.com") l = true) :
    occurs (dots "polar3d.com") l = true :=
  occurs_of_append (p := dots "printer2.") h

/-- The line for a name blocks no other one. -/
theorem blocks_entry_iff {name m : String} (hm : m ∈ names) : Blocks name (entry m) ↔ name = m := by
  constructor
  · rintro ⟨hosts, hfields, hname⟩
    rw [fields_entry m hm, List.cons.injEq] at hfields
    rw [← hfields.2, List.mem_singleton] at hname
    exact String.toList_injective hname
  · rintro rfl
    exact ⟨[name.toList], fields_entry name hm, by simp⟩

variable {t : Text}

/-- The last call is for the name that the longer one ends in. -/
theorem names_eq : names = names.dropLast ++ ["polar3d.com"] := rfl

theorem polar3d_mem_names : "polar3d.com" ∈ names := by simp [names]

theorem polar3d_not_mem_dropLast : "polar3d.com" ∉ names.dropLast := by decide +kernel

/-- The line for a name is not written after a call for a name whose matches it shares: that
call wrote or found one. -/
theorem entry_not_mem_of_shadowed {pre : List String} {m name : String} (hpre : ∀ n ∈ pre, n ∈ names)
    (hname : name ∈ names) (hnot : name ∉ pre) (hm : m ∈ pre)
    (hshadow : ∀ l, occurs (dots m) l = true → occurs (dots name) l = true)
    (hlen : 1 < (lines t).length) (hg : grepQ (dots name) t = false) :
    entry name ∉ lines (blockAll (pre ++ [name]) t) := by
  obtain ⟨l, hl, hocc⟩ :=
    grepQ_iff.1 (grepQ_blockAll_self hpre (occurs_entry_self m (hpre m hm)) hm hlen)
  have hfound : grepQ (dots name) (blockAll pre t) = true := grepQ_iff.2 ⟨l, hl, hshadow l hocc⟩
  rw [blockAll_append, blockAll_cons, chinaBlock, if_pos hfound, blockAll_nil]
  intro hmem
  rcases mem_lines_blockAll hpre hmem with hmem | ⟨n, hn, heq, -, -⟩
  · rw [grepQ_iff.2 ⟨_, hmem, occurs_entry_self name hname⟩] at hg
    exact Bool.noConfusion hg
  · have hblocks : Blocks name (entry n) := heq ▸ (blocks_entry_iff hname).2 rfl
    obtain rfl := (blocks_entry_iff (hpre n hn)).1 hblocks
    exact hnot hn

theorem entry_polar3d_not_mem (hlen : 1 < (lines t).length)
    (hg : grepQ (dots "polar3d.com") t = false) : entry "polar3d.com" ∉ lines (blockAll names t) := by
  rw [names_eq]
  exact entry_not_mem_of_shadowed (fun m hm => List.dropLast_subset _ hm) polar3d_mem_names
    polar3d_not_mem_dropLast (by simp [names]) (fun _ => occurs_polar3d) hlen hg

/-- When a blocking pass leaves a name blocked. -/
theorem blocked_blockAll_iff {name : String} (hname : name ∈ names) :
    Blocked name (blockAll names t) ↔
      Blocked name t ∨ name ≠ "polar3d.com" ∧ 1 < (lines t).length ∧ grepQ (dots name) t = false := by
  constructor
  · rintro ⟨l, hl, hblocks⟩
    rcases mem_lines_blockAll (fun _ h => h) hl with hl' | ⟨m, hm, rfl, hlen, hg⟩
    · exact Or.inl ⟨l, hl', hblocks⟩
    · obtain rfl := (blocks_entry_iff hm).1 hblocks
      refine Or.inr ⟨?_, hlen, hg⟩
      rintro rfl
      exact entry_polar3d_not_mem hlen hg hl
  · rintro (⟨l, hl, hblocks⟩ | ⟨hne, hlen, hg⟩)
    · exact ⟨l, mem_lines_blockAll_of_mem (fun _ h => h) hl, hblocks⟩
    · obtain ⟨pre, post, heq, hpre⟩ := List.eq_append_cons_of_mem hname
      have hsub : ∀ m ∈ pre ++ name :: post, m ∈ names := by
        intro m hm
        rwa [heq]
      refine ⟨entry name, ?_, (blocks_entry_iff hname).2 rfl⟩
      rw [heq]
      apply entry_mem_lines_blockAll hsub _ hlen hg
      intro m hm
      exact occurs_entry_other name hname hne m (hsub m (by simp [hm])) (ne_of_mem_of_not_mem hm hpre)

/-! ## The unblocking pass -/

/-- A line with a name matches one. -/
theorem matchesName_of_hasName {l : Line} (h : hasName l = true) : matchesName l = true := by
  obtain ⟨name, hname, hocc⟩ := List.any_eq_true.1 h
  exact List.any_eq_true.2 ⟨name, hname, occurs_dots_of_lit hocc⟩

theorem matchesName_entry {name : String} (hname : name ∈ names) : matchesName (entry name) = true :=
  List.any_eq_true.2 ⟨name, hname, occurs_entry_self name hname⟩

/-- The unblocking pass is one deletion. -/
theorem unblockPass_eq (t : Text) : razblAll names t = sedDelete matchesName t :=
  razblAll_eq names t

theorem lines_unblockPass (t : Text) : lines (razblAll names t) = (lines t).filter (!matchesName ·) := by
  rw [unblockPass_eq, lines_sedDelete]

/-- It leaves no line with a name. -/
theorem hasName_unblockPass : ∀ l ∈ lines (razblAll names t), hasName l = false := by
  intro l hl
  rw [lines_unblockPass, List.mem_filter, Bool.not_eq_true'] at hl
  by_contra h
  rw [matchesName_of_hasName (by simpa using h)] at hl
  exact Bool.noConfusion hl.2

/-- It keeps the lines without a name when only lines with a name match one. -/
theorem kept_unblockPass_iff :
    ((lines t).filter (!hasName ·)).Sublist (lines (razblAll names t)) ↔
      ∀ l ∈ lines t, matchesName l = true → hasName l = true := by
  rw [lines_unblockPass]
  constructor
  · intro h l hl hmatch
    by_contra hname
    have hmem : l ∈ (lines t).filter (!matchesName ·) :=
      h.subset (List.mem_filter.2 ⟨hl, by simpa using hname⟩)
    rw [List.mem_filter, hmatch] at hmem
    exact Bool.noConfusion hmem.2
  · intro h
    rw [List.filter_congr]
    intro l hl
    rw [Bool.eq_iff_iff.2 ⟨h l hl, matchesName_of_hasName⟩]

/-- It forgets the blocking calls. -/
theorem unblockPass_blockAll {ns : List String} (h : ∀ name ∈ ns, name ∈ names) :
    razblAll names (blockAll ns t) = razblAll names t := by
  simp only [unblockPass_eq]
  induction ns generalizing t with
  | nil => rfl
  | cons name ns ih =>
    have hname : name ∈ names := h name (by simp)
    rw [blockAll_cons, ih fun m hm => h m (by simp [hm]), chinaBlock]
    split_ifs
    · rfl
    · exact sedDelete_sedInsert (newline_not_mem_entry hname) (matchesName_entry hname) t

/-- It forgets any number of blocking passes. -/
theorem blockPass_unblockPass (k : ℕ) (t : Text) :
    razblAll names ((blockAll names)^[k] t) = razblAll names t := by
  induction k generalizing t with
  | zero => rfl
  | succ k ih => rw [Function.iterate_succ_apply, ih, unblockPass_blockAll fun _ h => h]

theorem unblockPass_eq_self (h : ∀ l ∈ lines t, matchesName l = false) : razblAll names t = t := by
  rw [unblockPass_eq, sedDelete_eq_self h]

/-! ## Both passes -/

theorem fixConfigHosts_of_true {vars : Text} (h : chinaCloud vars = true) :
    fixConfigHosts vars t = razblAll names t := by
  rw [fixConfigHosts, if_pos h]

theorem fixConfigHosts_of_false {vars : Text} (h : chinaCloud vars = false) :
    fixConfigHosts vars = blockAll names := by
  funext t
  rw [fixConfigHosts, if_neg (by simp [h])]

/-- The passes do what they are for exactly when every name is blocked already, or is not
`polar3d.com` and matches no line of a text of two lines or more, and only lines with a
name match one. -/
theorem meets_iff (t : Text) :
    Meets t ↔
      (∀ name ∈ names, Blocked name t ∨
        name ≠ "polar3d.com" ∧ 1 < (lines t).length ∧ grepQ (dots name) t = false) ∧
      ∀ l ∈ lines t, matchesName l = true → hasName l = true := by
  constructor
  · intro h
    refine ⟨fun name hname => ?_, kept_unblockPass_iff.1 h.kept.2⟩
    have hblocked := h.blocked [] rfl name hname
    rw [fixConfigHosts_of_false rfl] at hblocked
    exact (blocked_blockAll_iff hname).1 hblocked
  · rintro ⟨hnames, hlines⟩
    have hkept := kept_unblockPass_iff.2 hlines
    refine ⟨?_, ⟨?_, hasName_unblockPass⟩, ⟨?_, hkept⟩, ?_⟩
    · intro vars hvars name hname
      rw [fixConfigHosts_of_false hvars]
      exact (blocked_blockAll_iff hname).2 (hnames name hname)
    · intro vars hvars
      rw [fixConfigHosts_of_true hvars]
      exact hasName_unblockPass
    · intro vars hvars
      rw [fixConfigHosts_of_true hvars]
      exact hkept
    · intro hno block hblock k _
      have hself : razblAll names t = t := by
        apply unblockPass_eq_self
        intro l hl
        by_contra hmatch
        have hname := hlines l hl (by simpa using hmatch)
        rw [hno l hl] at hname
        exact Bool.noConfusion hname
      rw [fixConfigHosts_of_false hblock, restoreBaseHosts, blockPass_unblockPass, hself]
      refine ⟨fun unblock hunblock => ?_, rfl⟩
      rw [fixConfigHosts_of_true hunblock, blockPass_unblockPass, hself]

/-! ## The file of a new printer -/

/-- Two lines with the printer's own names. -/
def newHosts : Text := str "127.0.0.1\tlocalhost\n127.0.1.1\tFF5M\n"

theorem not_mem_fields_newHosts : ∀ l ∈ lines newHosts, "polar3d.com".toList ∉ fields l := by
  decide +kernel

/-- A blocking pass leaves `polar3d.com` reachable. -/
theorem newHosts_not_meets : ¬ Meets newHosts := by
  intro h
  have hblocked := h.blocked [] rfl "polar3d.com" polar3d_mem_names
  rw [fixConfigHosts_of_false rfl, blocked_blockAll_iff polar3d_mem_names] at hblocked
  rcases hblocked with ⟨l, hl, hosts, hfields, hname⟩ | ⟨hne, -⟩
  · have hmem : "polar3d.com".toList ∈ fields l := by
      rw [hfields]
      exact List.mem_cons_of_mem _ hname
    exact not_mem_fields_newHosts l hl hmem
  · exact hne rfl

end Hosts
