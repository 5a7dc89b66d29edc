import Ff5m.Md5.Scripts

/-!
# Which files keep their signature

Running `addMD5.sh` on a file and then `checkMD5.sh` on the result is meant to
end with the sums agreeing.  `signed_accepted_iff` says for which files it
does: those that `grep -v '^; MD5:'` re-emits unchanged (the last line has its
newline, and no line is a signature already) and whose other mentions of
`; MD5` add nothing to the sum that `awk` collects.  Every other file is
deleted by the check (`signed_removed`).

The proof compares the two pipelines on the signed text: the expected sum is
the digest of the file followed by whatever else was collected
(`origMd5_addMD5`), the computed one is the digest of the re-emitted file
(`localMd5_addMD5`).
-/

namespace Md5

open TextTools

/-! ## What the digest's characters are not -/

theorem ne_of_isHexDigit {c d : Char} (hc : isHexDigit c = true) (hd : isHexDigit d = false) :
    c ≠ d := by
  rintro rfl
  rw [hc] at hd
  exact absurd hd (by simp)

theorem Md5sum.newline_not_mem_hex (md : Md5sum) (t : Text) : '\n' ∉ md.hex t := fun h =>
  ne_of_isHexDigit (md.hex_digit t _ h) (by decide) rfl

theorem Md5sum.trDelete_hex (md : Md5sum) (t : Text) {cs : List Char}
    (hcs : ∀ d ∈ cs, isHexDigit d = false) : trDelete cs (md.hex t) = md.hex t :=
  trDelete_eq_self fun c hc hm => ne_of_isHexDigit (md.hex_digit t c hc) (hcs c hm) rfl

theorem Md5sum.not_isBlank (md : Md5sum) (t : Text) : ∀ c ∈ md.hex t, isBlank c = false := by
  intro c hc
  have h := md.hex_digit t c hc
  have h1 : c ≠ ' ' := ne_of_isHexDigit h (by decide)
  have h2 : c ≠ '\t' := ne_of_isHexDigit h (by decide)
  simp [isBlank, h1, h2]

/-! ## The signed text -/

theorem awkFirst_ofFile (md : Md5sum) (name : FileName) (f : Text) :
    awkFirst (md.ofFile name f) = md.hex f ++ ['\n'] := by
  have hnl : '\n' ∉ md.hex f ++ "  ".toList ++ name.text := by
    simp only [List.mem_append, not_or]
    exact ⟨⟨md.newline_not_mem_hex f, by decide⟩, fun h => (name.plain _ h).1 rfl⟩
  have hlines : lines (md.ofFile name f) = [md.hex f ++ "  ".toList ++ name.text] := by
    rw [Md5sum.ofFile, show (['\n'] : Text) = '\n' :: [] from rfl, lines_append_newline hnl,
      lines_nil]
  obtain ⟨c, cs, hcs⟩ := List.exists_cons_of_ne_nil (md.hex_ne_nil f)
  have hb := md.not_isBlank f
  have hdrop : (md.hex f ++ "  ".toList ++ name.text).dropWhile isBlank
      = md.hex f ++ "  ".toList ++ name.text := by
    have hc : isBlank c = false := hb c (by rw [hcs]; simp)
    rw [hcs, List.cons_append, List.cons_append, List.dropWhile_cons_of_neg (by simp [hc])]
  have htake : (md.hex f ++ "  ".toList ++ name.text).takeWhile (!isBlank ·) = md.hex f := by
    rw [List.append_assoc, List.takeWhile_append_of_pos fun a ha => by simp [hb a ha],
      show "  ".toList ++ name.text = ' ' :: ' ' :: name.text from rfl,
      List.takeWhile_cons_of_neg (by decide), List.append_nil]
  rw [awkFirst, hlines, List.map_singleton, hdrop, htake]
  simp

/-- The first line that `addMD5.sh` writes. -/
def header (md : Md5sum) (f : Text) : Line := "; MD5:".toList ++ md.hex f

theorem addMD5_eq (md : Md5sum) (name : FileName) (f : Text) :
    addMD5 md name f = header md f ++ '\n' :: f := by
  rw [addMD5, awkFirst_ofFile, cmdSubst_append_newline (md.newline_not_mem_hex f)]
  rfl

theorem newline_not_mem_header (md : Md5sum) (f : Text) : '\n' ∉ header md f := by
  rw [header, List.mem_append, not_or]
  exact ⟨by decide, md.newline_not_mem_hex f⟩

theorem lines_addMD5 (md : Md5sum) (name : FileName) (f : Text) :
    lines (addMD5 md name f) = header md f :: lines f := by
  rw [addMD5_eq, lines_append_newline (newline_not_mem_header md f)]

/-! ## The two sums of a signed text -/

/-- What one line of the file adds to the sum that `awk` collects. -/
def claimed (l : Line) : Text :=
  if occurs (lit "; MD5") l then trDelete [' ', '\r'] (field2 ':' l) else []

theorem newline_not_mem_field2 {l : Line} (h : '\n' ∉ l) : '\n' ∉ field2 ':' l := by
  intro hm
  have h1 := (List.takeWhile_sublist _).subset hm
  have h2 := List.mem_of_mem_tail h1
  exact h ((List.dropWhile_sublist _).subset h2)

theorem newline_not_mem_claimed {f : Text} : '\n' ∉ (lines f).flatMap claimed := by
  intro h
  obtain ⟨l, hl, hm⟩ := List.mem_flatMap.1 h
  unfold claimed at hm
  split at hm
  · exact newline_not_mem_field2 (no_newline_of_mem_lines l hl) (List.mem_of_mem_filter hm)
  · simp at hm

theorem trDelete_flatMap_claimed (ls : List Line) :
    trDelete [' ', '\r'] (ls.flatMap fun l => if occurs (lit "; MD5") l then field2 ':' l else [])
      = ls.flatMap claimed := by
  induction ls with
  | nil => rfl
  | cons l ls ih =>
    rw [List.flatMap_cons, trDelete_append, ih, List.flatMap_cons, claimed]
    split <;> rfl

theorem claimed_header (md : Md5sum) (f : Text) : claimed (header md f) = md.hex f := by
  have hocc : occurs (lit "; MD5") (header md f) = true :=
    occurs_of_matchAt (matchAt_lit_iff.2 ⟨':' :: md.hex f, by simp [header]⟩)
  have hall : (md.hex f).takeWhile (· ≠ ':') = md.hex f :=
    List.takeWhile_eq_self_iff.2 fun c hc => by
      simpa using ne_of_isHexDigit (md.hex_digit f c hc) (by decide)
  have hfield : field2 ':' (header md f) = md.hex f := by
    rw [field2, header, show "; MD5:".toList ++ md.hex f
      = ';' :: ' ' :: 'M' :: 'D' :: '5' :: ':' :: md.hex f from rfl]
    simpa [List.dropWhile_cons] using hall
  rw [claimed, if_pos hocc, hfield]
  exact md.trDelete_hex f (by simp [isHexDigit])

/-- The expected sum of a signed file: the digest of the file, then what the
file itself adds. -/
theorem origMd5_addMD5 (md : Md5sum) (name : FileName) (f : Text) :
    origMd5 (addMD5 md name f) = md.hex f ++ (lines f).flatMap claimed := by
  have hnl : '\n' ∉ md.hex f ++ (lines f).flatMap claimed := by
    rw [List.mem_append, not_or]
    exact ⟨md.newline_not_mem_hex f, newline_not_mem_claimed⟩
  rw [origMd5, trDelete_flatMap_claimed, lines_addMD5, List.flatMap_cons, claimed_header,
    cmdSubst_of_no_newline hnl]

/-- The computed sum of a signed file: the digest of what `grep -v` re-emits of
the file. -/
theorem localMd5_addMD5 (md : Md5sum) (name : FileName) (f : Text) :
    localMd5 md (addMD5 md name f) = md.hex (grepNotStart (lit "; MD5:") f) := by
  have hhead : matchAt (lit "; MD5:") (header md f) = true := matchAt_lit_iff.2 (List.prefix_append _ _)
  have hgrep : grepNotStart (lit "; MD5:") (addMD5 md name f) = grepNotStart (lit "; MD5:") f := by
    rw [grepNotStart, lines_addMD5, List.filter_cons_of_neg (by simp [hhead]), grepNotStart]
  rw [localMd5, hgrep, Md5sum.ofStdin, trDelete_append, md.trDelete_hex _ (by simp [isHexDigit]),
    show trDelete [' ', '-'] "  -\n".toList = ['\n'] from rfl,
    cmdSubst_append_newline (md.newline_not_mem_hex _)]

/-! ## Main results -/

/-- Files whose signature the check confirms: the last line is ended by a
newline, no line is a signature already, and every line that mentions `; MD5`
has only blanks and carriage returns between its first two colons. -/
structure Signable (f : Text) : Prop where
  terminated : Terminated f
  unsigned : ∀ l ∈ lines f, matchAt (lit "; MD5:") l = false
  silent : ∀ l ∈ lines f, occurs (lit "; MD5") l = true → ∀ c ∈ field2 ':' l, c = ' ' ∨ c = '\r'

theorem flatMap_claimed_eq_nil_iff {ls : List Line} :
    ls.flatMap claimed = [] ↔
      ∀ l ∈ ls, occurs (lit "; MD5") l = true → ∀ c ∈ field2 ':' l, c = ' ' ∨ c = '\r' := by
  rw [List.flatMap_eq_nil_iff]
  refine forall₂_congr fun l _ => ?_
  by_cases h : occurs (lit "; MD5") l = true
  · rw [claimed, if_pos h, trDelete_eq_nil_iff]
    simp [h]
  · simp [claimed, h]

theorem grepNotStart_eq_self_iff {p : Pat} {f : Text} :
    grepNotStart p f = f ↔ Terminated f ∧ ∀ l ∈ lines f, matchAt p l = false := by
  rw [grepNotStart, unlines_filter_lines_eq_iff]
  simp

/-- The two sums of a signed file agree exactly for the signable files. -/
theorem localMd5_eq_origMd5_iff (md : Md5sum) (name : FileName) (f : Text) :
    localMd5 md (addMD5 md name f) = origMd5 (addMD5 md name f) ↔ Signable f := by
  rw [localMd5_addMD5, origMd5_addMD5]
  constructor
  · intro h
    have hhex : md.hex f = md.hex (grepNotStart (lit "; MD5:") f) :=
      md.hex_prefixFree _ _ ⟨_, h.symm⟩
    have hgrep := (md.hex_injective hhex).symm
    have hnil : (lines f).flatMap claimed = [] := by
      rw [← hhex] at h
      simpa using h.symm
    obtain ⟨hterm, hun⟩ := grepNotStart_eq_self_iff.1 hgrep
    exact ⟨hterm, hun, flatMap_claimed_eq_nil_iff.1 hnil⟩
  · rintro ⟨hterm, hun, hsil⟩
    rw [grepNotStart_eq_self_iff.2 ⟨hterm, hun⟩, flatMap_claimed_eq_nil_iff.2 hsil, List.append_nil]

theorem origMd5_addMD5_ne_nil (md : Md5sum) (name : FileName) (f : Text) :
    origMd5 (addMD5 md name f) ≠ [] := by
  rw [origMd5_addMD5]
  exact fun h => md.hex_ne_nil f (List.append_eq_nil_iff.1 h).1

/-- Signing the file and then checking it with the delete flag ends in an
accepting verdict and leaves the signed file in place. -/
def SignedAccepted (md : Md5sum) (name : FileName) (f vars : Text) : Prop :=
  let signed := addMD5 md name f
  let r := checkMD5 md name.text "true".toList (some signed) vars
  r.verdict ∈ sumVerdicts ∧ r.file = some signed

/-- **Which signatures are confirmed.**  Signing a file and checking the result
accepts it, and leaves it in place, exactly when the file is signable. -/
theorem signed_accepted_iff (md : Md5sum) (name : FileName) (f vars : Text) :
    SignedAccepted md name f vars ↔ Signable f := by
  rw [← localMd5_eq_origMd5_iff md name f]
  constructor
  · rintro ⟨hv, -⟩
    by_contra hne
    have h6 := (@checkMD5_delete_of_ne md _ _ vars name.ne_nil
      (origMd5_addMD5_ne_nil md name f) hne).1
    rw [h6] at hv
    exact absurd hv (by decide)
  · exact checkMD5_verdict_of_eq name.ne_nil (origMd5_addMD5_ne_nil md name f)

/-- Every other file is deleted by the check. -/
theorem signed_removed (md : Md5sum) (name : FileName) {f : Text} (vars : Text)
    (h : ¬ Signable f) :
    (checkMD5 md name.text "true".toList (some (addMD5 md name f)) vars).verdict = 6 ∧
      (checkMD5 md name.text "true".toList (some (addMD5 md name f)) vars).file = none :=
  checkMD5_delete_of_ne name.ne_nil (origMd5_addMD5_ne_nil md name f)
    (mt (localMd5_eq_origMd5_iff md name f).1 h)

/-! ## A file that loses its signature -/

/-- An injective prefix-free digest to run the scripts with: every character is
written in unary and ended by a `b`, and the whole by a `c`. -/
def unaryHex (t : Text) : Text := t.flatMap (fun c => List.replicate c.toNat 'a' ++ ['b']) ++ ['c']

theorem unaryHex_append_injective {s t u : Text} (h : unaryHex s ++ u = unaryHex t) :
    s = t ∧ u = [] := by
  induction s generalizing t with
  | nil =>
    cases t with
    | nil => exact ⟨rfl, by simpa [unaryHex] using h⟩
    | cons d ds =>
      exfalso
      cases hd : d.toNat <;> simp [unaryHex, hd, List.replicate_succ] at h
  | cons c cs ih =>
    cases t with
    | nil =>
      exfalso
      cases hc : c.toNat <;> simp [unaryHex, hc, List.replicate_succ] at h
    | cons d ds =>
      have hunary : ∀ (m n : ℕ) (x y : Text),
          List.replicate m 'a' ++ 'b' :: x = List.replicate n 'a' ++ 'b' :: y → m = n ∧ x = y := by
        intro m
        induction m with
        | zero => intro n x y e; cases n <;> simp_all [List.replicate_succ]
        | succ m ihm =>
          intro n x y e
          cases n with
          | zero => simp [List.replicate_succ] at e
          | succ n =>
            simp only [List.replicate_succ, List.cons_append, List.cons.injEq, true_and] at e
            have := ihm n x y e
            exact ⟨by omega, this.2⟩
      have h' : List.replicate c.toNat 'a' ++ 'b' :: (unaryHex cs ++ u)
          = List.replicate d.toNat 'a' ++ 'b' :: unaryHex ds := by
        simpa [unaryHex] using h
      obtain ⟨hcd, hrest⟩ := hunary _ _ _ _ h'
      obtain ⟨rfl, hu⟩ := ih hrest
      exact ⟨by rw [Char.toNat_inj.1 hcd], hu⟩

/-- The digest `unaryHex` as an instance of the parameter. -/
def unaryMd5 : Md5sum where
  hex := unaryHex
  hex_digit := by
    intro t c hc
    simp only [unaryHex, List.mem_append, List.mem_flatMap, List.mem_replicate,
      List.mem_singleton] at hc
    rcases hc with ⟨d, -, ⟨-, rfl⟩ | rfl⟩ | rfl <;> decide
  hex_ne_nil := by simp [unaryHex]
  hex_injective := fun s t h => (unaryHex_append_injective (u := []) (by simpa using h)).1
  hex_prefixFree := by
    rintro s t ⟨u, hu⟩
    rw [(unaryHex_append_injective hu).1]

/-- The file name of the run below. -/
def cubeName : FileName := ⟨"cube.gcode".toList, by simp, by simp⟩

/-- A file whose last line has no newline is deleted by the check that follows
its signing. -/
theorem unterminated_not_accepted :
    ¬ ∀ (md : Md5sum) (name : FileName) (f vars : Text), SignedAccepted md name f vars := by
  intro h
  have hs := (signed_accepted_iff unaryMd5 cubeName "G28".toList []).1 (h _ _ _ _)
  exact absurd hs.terminated (by simp [Terminated])

end Md5
