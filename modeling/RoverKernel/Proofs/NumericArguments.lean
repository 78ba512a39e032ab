import RoverKernel.Proofs.FloatOrder
import RoverKernel.Proofs.FloatGrammar
import RoverKernel.Proofs.RadioRequests

/-!
# Numeric arguments

`TaskEntry.appendNumeric` reads decimal text received over a link: the bytes must be UTF-8;
trailing NULs, and then the white space at both ends, are dropped; what is left must be float
text, and its value is appended as a single-precision float.  Over every byte string:

* `Utf8.units_append_nul`          reading UTF-8 stops at a NUL, so NULs after a text decode
                                   as NULs after its characters;
* `NumericRejected`, `ReadsAs`     the texts that are refused, and the pattern a literal reads as;
* `toBits_readsAs`                 literals read as IEEE 754 single precision, rounded to
                                   nearest, ties to even;
* `numeric_argument_reading`       appending fails, naming the text, exactly on refused texts,
                                   appends the literal's float otherwise, is not changed by NULs
                                   at the end, and refuses a NUL before white space.
-/

namespace RoverKernel

/-! ## Reading UTF-8 up to a NUL -/

namespace Utf8

theorem isCont_zero : isCont 0 = false := rfl

theorem secondOf3Ok_zero (b : UInt8) : secondOf3Ok b 0 = false := by
  unfold secondOf3Ok
  split_ifs <;> rfl

theorem secondOf4Ok_zero (b : UInt8) : secondOf4Ok b 0 = false := by
  unfold secondOf4Ok
  split_ifs <;> rfl

/-- a step reads no byte past the end of its input: a missing byte reads as a NUL, which
continues no sequence -/
theorem step_consumed_le (b : UInt8) (rest : List UInt8) : (step b rest).2 ≤ rest.length + 1 := by
  match rest with
  | [] =>
    simp [step, isCont_zero, secondOf3Ok_zero, secondOf4Ok_zero]
    split_ifs <;> simp
  | [x] =>
    simp [step, isCont_zero]
    split_ifs <;> simp
  | [x, y] =>
    simp [step, isCont_zero]
    split_ifs <;> simp
  | x :: y :: z :: w =>
    simp [step]
    split_ifs <;> simp

/-- a step reads the same before a NUL as at the end of its input -/
theorem step_append_nul (b : UInt8) (rest u : List UInt8) : step b (rest ++ 0 :: u) = step b rest := by
  match rest with
  | [] => simp [step, isCont_zero, secondOf3Ok_zero, secondOf4Ok_zero]
  | [x] => simp [step, isCont_zero]
  | [x, y] => simp [step]
  | x :: y :: z :: w => simp [step]

theorem units_nil : units [] = [] := by
  rw [units]

theorem units_cons (b : UInt8) (rest : List UInt8) :
    units (b :: rest) = (step b rest).1 :: units ((b :: rest).drop (max (step b rest).2 1)) := by
  rw [units]

/-- reading stops at a NUL: the bytes before it are read as they would be on their own -/
theorem units_append_nul (u : List UInt8) : (t : List UInt8) →
    units (t ++ 0 :: u) = units t ++ units (0 :: u)
  | [] => by rw [List.nil_append, units_nil, List.nil_append]
  | b :: rest => by
    have hle := step_consumed_le b rest
    rw [List.cons_append, units_cons, units_cons, step_append_nul, ← List.cons_append,
      List.drop_append_of_le_length (by simp only [List.length_cons]; omega),
      units_append_nul u (List.drop _ (b :: rest)), List.cons_append]
termination_by t => t.length
decreasing_by simp only [List.length_drop, List.length_cons]; omega

theorem units_nul_cons (u : List UInt8) : units (0 :: u) = some '\x00' :: units u := by
  rw [units_cons]
  rfl

theorem units_append_replicate_nul (t : List UInt8) (k : Nat) :
    units (t ++ List.replicate k 0) = units t ++ List.replicate k (some '\x00') := by
  induction k generalizing t with
  | zero => simp
  | succ k ih =>
    have hnuls := ih []
    rw [List.nil_append, units_nil, List.nil_append] at hnuls
    rw [List.replicate_succ, units_append_nul, units_nul_cons, hnuls, List.replicate_succ]

theorem mapM_map_some (cs : List Char) : (cs.map some).mapM id = some cs := by
  induction cs with
  | nil => rfl
  | cons c cs ih => simp [List.mapM_cons, ih]

/-- **NULs after a text decode as NULs after its characters**, or leave it invalid -/
theorem decode?_append_replicate_nul (t : List UInt8) (k : Nat) :
    decode? (t ++ List.replicate k 0) = (decode? t).map (· ++ List.replicate k '\x00') := by
  rw [decode?, decode?, units_append_replicate_nul, List.mapM_append, ← List.map_replicate,
    mapM_map_some]
  cases (units t).mapM id <;> rfl

/-- a NUL and ASCII text after a text decode as themselves after its characters -/
theorem decode?_append_nul_encode (t : List UInt8) {ws : List Char} (hws : ∀ c ∈ ws, c.toNat < 128) :
    decode? (t ++ 0 :: encode ws) = (decode? t).map (· ++ '\x00' :: ws) := by
  have hrest : (units (0 :: encode ws)).mapM id = some ('\x00' :: ws) := by
    rw [units_nul_cons, units_encode_ascii hws, ← List.map_cons, mapM_map_some]
  rw [decode?, decode?, units_append_nul, List.mapM_append, hrest]
  cases (units t).mapM id <;> rfl

end Utf8
/-! ## Trailing NULs and white space -/

theorem dropTrailingNul_append_replicate (cs : List Char) (k : Nat) :
    dropTrailingNul (cs ++ List.replicate k '\x00') = dropTrailingNul cs := by
  rw [dropTrailingNul, dropTrailingNul, List.reverse_append, List.reverse_replicate,
    List.dropWhile_append_of_pos (by simp)]

theorem dropTrailingNul_concat {c : Char} (hc : c ≠ '\x00') (cs : List Char) :
    dropTrailingNul (cs ++ [c]) = cs ++ [c] := by
  rw [dropTrailingNul, List.reverse_concat, List.dropWhile_cons_of_neg (by simpa using hc),
    ← List.reverse_concat, List.reverse_reverse]

/-- dropping a prefix of characters that satisfy `p` keeps every character that does not -/
theorem mem_dropWhile_of_not {p : Char → Bool} {c : Char} (hc : p c = false) :
    {cs : List Char} → c ∈ cs → c ∈ cs.dropWhile p
  | d :: cs, hmem => by
    by_cases hd : p d = true
    · rw [List.dropWhile_cons_of_pos hd]
      rcases List.mem_cons.mp hmem with rfl | hmem
      · rw [hc] at hd
        cases hd
      · exact mem_dropWhile_of_not hc hmem
    · rw [List.dropWhile_cons_of_neg hd]
      exact hmem

/-- trimming white space keeps every other character -/
theorem mem_trimWhiteSpace {c : Char} (hc : Unicode.isWhiteSpace c = false) {cs : List Char}
    (h : c ∈ cs) : c ∈ trimWhiteSpace cs := by
  rw [trimWhiteSpace, List.mem_reverse]
  exact mem_dropWhile_of_not hc (List.mem_reverse.mpr (mem_dropWhile_of_not hc h))

/-! ## Reading a numeric argument -/

/-- text a numeric argument is refused for: not UTF-8, or, once the trailing NULs and then the
white space at both ends are dropped, empty or outside the float grammar -/
def NumericRejected (t : List UInt8) : Prop :=
  match Utf8.decode? t with
  | none => True
  | some cs => trimWhiteSpace (dropTrailingNul cs) = [] ∨
      ∀ lit, ¬ FloatText (trimWhiteSpace (dropTrailingNul cs)) lit

/-- the single-precision pattern `b` is what reading `lit` gives: an infinity or a NaN with the
literal's sign, or the rounding to nearest, ties to even, of its decimal value -/
def ReadsAs (lit : FloatLiteral) (b : Nat) : Prop :=
  match lit with
  | .infinity neg =>
    FloatFormat.binary32.classify b = .infinite ∧ FloatFormat.binary32.isNegative b = neg
  | .nan neg => FloatFormat.binary32.classify b = .nan ∧ FloatFormat.binary32.isNegative b = neg
  | .number neg m k => FloatFormat.binary32.RoundsTo neg (m * 10 ^ k) b

/-- every literal reads as a single-precision pattern of the right kind -/
theorem toBits_readsAs (lit : FloatLiteral) :
    lit.toBits FloatFormat.binary32 < 4294967296 ∧ ReadsAs lit (lit.toBits FloatFormat.binary32) := by
  cases lit with
  | infinity neg =>
    obtain ⟨hc, hs⟩ := FloatFormat.classify_signed neg (k := FloatFormat.binary32.infBits) (by decide)
    exact ⟨by cases neg <;> decide, by rw [FloatLiteral.toBits, hc]; rfl, hs⟩
  | nan neg =>
    obtain ⟨hc, hs⟩ := FloatFormat.classify_signed neg (k := FloatFormat.binary32.canonicalNaN)
      (by decide)
    exact ⟨by cases neg <;> decide, by rw [FloatLiteral.toBits, hc]; rfl, hs⟩
  | number neg m k => exact FloatFormat.ofDecimal_roundsTo neg m k

theorem FloatText.ne_nil {s : List Char} {lit : FloatLiteral} (h : FloatText s lit) : s ≠ [] := by
  cases h with
  | mk _ hu => simpa using fun _ => hu.head.1

theorem parseNumericText_of_rejected {t : List UInt8} (h : NumericRejected t) :
    parseNumericText t = .error (.invalidNumericArgument (String.ofList (Utf8.decodeLossy t))) := by
  unfold NumericRejected at h
  unfold parseNumericText
  split
  · rfl
  · next cs hcs =>
    rw [hcs] at h
    dsimp only at h ⊢
    rcases h with hempty | hgrammar
    · rw [if_pos (by rw [hempty]; rfl)]
    · split
      · rfl
      · split
        · rfl
        · next lit hlit => exact absurd ((FloatLiteral.parse_eq_some_iff _ _).mp hlit) (hgrammar lit)

theorem parseNumericText_of_floatText {t : List UInt8} {cs : List Char} {lit : FloatLiteral}
    (hcs : Utf8.decode? t = some cs) (hlit : FloatText (trimWhiteSpace (dropTrailingNul cs)) lit) :
    parseNumericText t = .ok (F32.ofNat (lit.toBits FloatFormat.binary32)) := by
  unfold parseNumericText
  rw [hcs]
  dsimp only
  rw [if_neg (by simpa using hlit.ne_nil), (FloatLiteral.parse_eq_some_iff _ _).mpr hlit]

/-- every text is refused or read as text of the grammar -/
theorem numericRejected_or_floatText (t : List UInt8) :
    NumericRejected t ∨ ∃ cs lit, Utf8.decode? t = some cs ∧
      FloatText (trimWhiteSpace (dropTrailingNul cs)) lit := by
  unfold NumericRejected
  cases hcs : Utf8.decode? t with
  | none => exact .inl trivial
  | some cs =>
    by_cases hlit : ∃ lit, FloatText (trimWhiteSpace (dropTrailingNul cs)) lit
    · obtain ⟨lit, hlit⟩ := hlit
      exact .inr ⟨cs, lit, rfl, hlit⟩
    · exact .inl (.inr fun lit h => hlit ⟨lit, h⟩)

/-- NULs after a text change nothing once the trailing NULs are dropped -/
theorem numericRejected_append_replicate_nul {t : List UInt8} (h : NumericRejected t) (k : Nat) :
    NumericRejected (t ++ List.replicate k 0) := by
  unfold NumericRejected at h ⊢
  rw [Utf8.decode?_append_replicate_nul]
  cases hcs : Utf8.decode? t with
  | none => trivial
  | some cs =>
    rw [hcs] at h
    simpa only [Option.map_some, dropTrailingNul_append_replicate] using h

/-- **A NUL before white space is not dropped**, and no float text holds one -/
theorem numericRejected_nul_before_space (t : List UInt8) {ws : List Char} (hne : ws ≠ [])
    (hws : ∀ c ∈ ws, c.toNat < 128 ∧ Unicode.isWhiteSpace c = true) :
    NumericRejected (t ++ 0 :: Utf8.encode ws) := by
  unfold NumericRejected
  rw [Utf8.decode?_append_nul_encode t fun c hc => (hws c hc).1]
  cases Utf8.decode? t with
  | none => trivial
  | some cs =>
    refine .inr fun lit hlit => hlit.nul_not_mem ?_
    dsimp only
    -- the text ends in white space, so no NUL is dropped, and trimming stops at the NUL
    obtain ⟨ws', w, rfl⟩ := (List.eq_nil_or_concat' ws).resolve_left hne
    have hw : w ≠ '\x00' := by
      rintro rfl
      exact absurd (hws _ (List.mem_concat_self ..)).2 (by decide)
    have hdrop : dropTrailingNul (cs ++ '\x00' :: (ws' ++ [w])) = cs ++ '\x00' :: (ws' ++ [w]) := by
      rw [← List.cons_append, ← List.append_assoc, dropTrailingNul_concat hw]
    rw [hdrop]
    exact mem_trimWhiteSpace (by decide) (by simp)

namespace TaskEntry

variable (e : TaskEntry)

theorem appendF32_ne_invalid (v : F32) (s : String) :
    e.appendF32 v ≠ .error (.invalidNumericArgument s) := by
  unfold appendF32 appendBytes
  split <;> simp

theorem appendNumeric_of_rejected {t : List UInt8} (h : NumericRejected t) :
    e.appendNumeric t = .error (.invalidNumericArgument (String.ofList (Utf8.decodeLossy t))) := by
  rw [appendNumeric, parseNumericText_of_rejected h]
  rfl

theorem appendNumeric_of_floatText {t : List UInt8} {cs : List Char} {lit : FloatLiteral}
    (hcs : Utf8.decode? t = some cs) (hlit : FloatText (trimWhiteSpace (dropTrailingNul cs)) lit) :
    e.appendNumeric t = e.appendF32 (F32.ofNat (lit.toBits FloatFormat.binary32)) := by
  rw [appendNumeric, parseNumericText_of_floatText hcs hlit]
  rfl

end TaskEntry

/-- what appending a numeric argument does, on every byte string -/
structure NumericArgument (e : TaskEntry) : Prop where
  /-- it fails with the text, invalid UTF-8 replaced, exactly on the refused texts -/
  rejected_iff : ∀ t, e.appendNumeric t =
      .error (.invalidNumericArgument (String.ofList (Utf8.decodeLossy t))) ↔ NumericRejected t
  /-- on text of the grammar it appends the float the literal reads as -/
  accepted : ∀ t cs lit, Utf8.decode? t = some cs →
      FloatText (trimWhiteSpace (dropTrailingNul cs)) lit →
      ∃ v : F32, ReadsAs lit v.toNat ∧ e.appendNumeric t = e.appendF32 v
  /-- NULs at the end change neither whether it succeeds nor what it appends -/
  nul_padding : ∀ t k, (e.appendNumeric (t ++ List.replicate k 0)).toOption = (e.appendNumeric t).toOption
  /-- a NUL followed by white space is refused -/
  nul_before_space : ∀ t ws, ws ≠ [] → (∀ c ∈ ws, c.toNat < 128 ∧ Unicode.isWhiteSpace c = true) →
      e.appendNumeric (t ++ 0 :: Utf8.encode ws) =
        .error (.invalidNumericArgument (String.ofList (Utf8.decodeLossy (t ++ 0 :: Utf8.encode ws))))

/-- **Numeric arguments are read as IEEE 754 single precision.**  Appending decimal text to an
entry fails, naming the text, exactly when the bytes are not UTF-8 or, with trailing NULs and
then surrounding white space dropped, are empty or not float text; otherwise it appends the
float the text denotes, rounded to nearest, ties to even.  Trailing NULs never matter, and a
NUL before white space is refused. -/
theorem numeric_argument_reading (e : TaskEntry) : NumericArgument e where
  rejected_iff t := by
    constructor
    · intro h
      rcases numericRejected_or_floatText t with hr | ⟨cs, lit, hcs, hlit⟩
      · exact hr
      · rw [e.appendNumeric_of_floatText hcs hlit] at h
        exact absurd h (e.appendF32_ne_invalid _ _)
    · exact e.appendNumeric_of_rejected
  accepted t cs lit hcs hlit := by
    obtain ⟨hlt, hreads⟩ := toBits_readsAs lit
    refine ⟨F32.ofNat (lit.toBits FloatFormat.binary32), ?_, e.appendNumeric_of_floatText hcs hlit⟩
    rw [F32.toNat_ofNat_of_lt hlt]
    exact hreads
  nul_padding t k := by
    rcases numericRejected_or_floatText t with hr | ⟨cs, lit, hcs, hlit⟩
    · rw [e.appendNumeric_of_rejected hr,
        e.appendNumeric_of_rejected (numericRejected_append_replicate_nul hr k)]
      rfl
    · -- the padded bytes decode to the same text followed by NULs, which are dropped
      have hcs' : Utf8.decode? (t ++ List.replicate k 0) = some (cs ++ List.replicate k '\x00') := by
        rw [Utf8.decode?_append_replicate_nul, hcs]
        rfl
      have hlit' : FloatText (trimWhiteSpace (dropTrailingNul (cs ++ List.replicate k '\x00'))) lit := by
        rw [dropTrailingNul_append_replicate]
        exact hlit
      rw [e.appendNumeric_of_floatText hcs hlit, e.appendNumeric_of_floatText hcs' hlit']
  nul_before_space t ws hne hws :=
    e.appendNumeric_of_rejected (numericRejected_nul_before_space t hne hws)

end RoverKernel
