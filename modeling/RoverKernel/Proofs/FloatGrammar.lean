import Mathlib
import RoverKernel.Float.Decimal

/-!
# The grammar of decimal floating-point text

`FloatLiteral.parse` reads an optional sign and then either one of the words `inf`,
`infinity` and `nan` in any letter case, or a decimal mantissa with at least one digit and at
most one point, followed by an optional exponent.  The grammar is stated here as inductive
relations between a text and the literal it denotes, with digits valued by `Nat.ofDigits`, and
the reader is shown to accept exactly it:

* `FloatText`                       an optional `SignText` and an `UnsignedText`, which is a
                                    `MantissaText` and an `ExponentText`, or a word;
* `FloatLiteral.parse_eq_some_iff`  the reader gives `lit` exactly on the texts of the grammar
                                    that denote `lit`;
* `FloatText.nul_not_mem`           no float text holds a NUL.
-/

namespace RoverKernel

/-- the value of decimal digits, most significant first -/
def decimalValue (ds : List Char) : Nat :=
  Nat.ofDigits 10 (ds.reverse.map fun c => c.toNat - '0'.toNat)

/-- an optional sign, and whether it is a minus -/
inductive SignText : List Char → Bool → Prop
  | none : SignText [] false
  | plus : SignText ['+'] false
  | minus : SignText ['-'] true

/-- one or more decimal digits -/
def DigitsText (ds : List Char) : Prop := ds ≠ [] ∧ ∀ c ∈ ds, c.isDigit = true

/-- a signed run of digits and its value -/
inductive SignedDigits : List Char → Int → Prop
  | mk {sgn neg ds} : SignText sgn neg → DigitsText ds →
      SignedDigits (sgn ++ ds) (if neg then -(decimalValue ds : Int) else decimalValue ds)

/-- decimal digits with at most one point among them and at least one digit, with the digits
before and after the point -/
inductive MantissaText : List Char → List Char → List Char → Prop
  | whole {ds} : DigitsText ds → MantissaText ds ds []
  | point {ip fp} : (∀ c ∈ ip ++ fp, c.isDigit = true) → ip ++ fp ≠ [] →
      MantissaText (ip ++ '.' :: fp) ip fp

/-- an optional exponent, `e` or `E` and a signed run of digits, and its value -/
inductive ExponentText : List Char → Int → Prop
  | none : ExponentText [] 0
  | some {c s x} : (c = 'e' ∨ c = 'E') → SignedDigits s x → ExponentText (c :: s) x

/-- the text after the sign, and the literal it denotes under the sign `neg`: a decimal
`m * 10 ^ k`, or `inf`, `infinity` or `nan` in any letter case -/
inductive UnsignedText (neg : Bool) : List Char → FloatLiteral → Prop
  | number {mt ip fp et x} : MantissaText mt ip fp → ExponentText et x →
      UnsignedText neg (mt ++ et) (.number neg (decimalValue (ip ++ fp)) (x - fp.length))
  | infinity {w} : w.map Char.toLower = "inf".toList ∨ w.map Char.toLower = "infinity".toList →
      UnsignedText neg w (.infinity neg)
  | nan {w} : w.map Char.toLower = "nan".toList → UnsignedText neg w (.nan neg)

/-- decimal floating-point text: an optional sign and an unsigned text -/
inductive FloatText : List Char → FloatLiteral → Prop
  | mk {sgn neg u lit} : SignText sgn neg → UnsignedText neg u lit → FloatText (sgn ++ u) lit

/-! ## Facts about the grammar -/

theorem toList_inf : "inf".toList = ['i', 'n', 'f'] := by simp

theorem toList_infinity : "infinity".toList = ['i', 'n', 'f', 'i', 'n', 'i', 't', 'y'] := by simp

theorem toList_nan : "nan".toList = ['n', 'a', 'n'] := by simp

/-- a text is an optional sign followed by a text that does not start with one -/
theorem SignText.split (cs : List Char) :
    ∃ sgn neg ds, SignText sgn neg ∧ cs = sgn ++ ds ∧ (sgn = [] → ∀ c ∈ ds.head?, c ≠ '+' ∧ c ≠ '-') := by
  match cs with
  | [] => exact ⟨[], false, [], .none, rfl, fun _ => by simp⟩
  | c :: ds =>
    exact if hplus : c = '+' then ⟨['+'], false, ds, .plus, by rw [hplus]; rfl, nofun⟩
    else if hminus : c = '-' then ⟨['-'], true, ds, .minus, by rw [hminus]; rfl, nofun⟩
    else ⟨[], false, c :: ds, .none, rfl, fun _ => by simp [hplus, hminus]⟩

theorem digitsText_iff (ds : List Char) :
    DigitsText ds ↔ (ds.isEmpty || !ds.all Char.isDigit) = false := by
  simp [DigitsText]

theorem sign_ne_of_isDigit {c : Char} (h : c.isDigit = true) : c ≠ '+' ∧ c ≠ '-' := by
  constructor <;> rintro rfl <;> exact absurd h (by decide)

theorem DigitsText.head_not_sign {ds : List Char} (h : DigitsText ds) :
    ∀ c ∈ ds.head?, c ≠ '+' ∧ c ≠ '-' := fun c hc =>
  sign_ne_of_isDigit (h.2 c (List.mem_of_mem_head? hc))

theorem lower_beq_iff (u : List Char) (w : String) :
    (String.ofList (u.map Char.toLower) == w) = true ↔ u.map Char.toLower = w.toList := by
  rw [beq_iff_eq]
  constructor
  · rintro rfl
    simp
  · intro h
    rw [h, String.ofList_toList]

/-- an exponent starts with a letter -/
theorem ExponentText.head {r : List Char} {x : Int} (h : ExponentText r x) :
    ∀ c ∈ r.head?, c.isDigit = false ∧ c ≠ '.' := by
  cases h with
  | none => simp
  | some hc _ =>
    intro c hc'
    cases hc'
    rcases hc with rfl | rfl <;> decide

theorem toLower_of_isDigit {c : Char} (h : c.isDigit = true) : c.toLower = c := by
  unfold Char.toLower
  simp only [Char.isDigit, Bool.and_eq_true, decide_eq_true_eq] at h
  split_ifs with hupper
  · -- a digit is no capital letter
    simp only [UInt32.le_iff_toNat_le, ge_iff_le] at h hupper
    have h9 : '9'.val.toNat = 57 := rfl
    have hA : 'A'.val.toNat = 65 := rfl
    omega
  · rfl

/-- a text that reads in lower case as a word starting with a letter does not start with a sign -/
theorem word_head {u : List Char}
    (h : ∃ c ∈ (u.map Char.toLower).head?, c ≠ '+' ∧ c ≠ '-') :
    u ≠ [] ∧ ∀ c ∈ u.head?, c ≠ '+' ∧ c ≠ '-' := by
  obtain ⟨c, hc, hplus, hminus⟩ := h
  cases u with
  | nil => cases hc
  | cons d u =>
    cases hc
    refine ⟨by simp, fun c hc => ?_⟩
    cases hc
    constructor <;> rintro rfl <;> simp_all [Char.toLower]

/-- a text with a digit in it reads in lower case as no word without one -/
theorem map_toLower_ne_word {u : List Char} (hu : ∃ c ∈ u, c.isDigit = true) {w : List Char}
    (hw : ∀ c ∈ w, c.isDigit = false) : u.map Char.toLower ≠ w := by
  obtain ⟨c, hc, hdigit⟩ := hu
  intro h
  have hmem : c.toLower ∈ w := h ▸ List.mem_map_of_mem hc
  rw [toLower_of_isDigit hdigit] at hmem
  exact absurd (hw c hmem) (by rw [hdigit]; decide)

/-- a text with a digit in it is none of the reader's words -/
theorem not_words_of_digit {u : List Char} (hu : ∃ c ∈ u, c.isDigit = true) :
    ¬ (String.ofList (u.map Char.toLower) == "inf" ||
        String.ofList (u.map Char.toLower) == "infinity") = true ∧
      ¬ (String.ofList (u.map Char.toLower) == "nan") = true := by
  rw [Bool.or_eq_true, lower_beq_iff, lower_beq_iff, lower_beq_iff, toList_inf, toList_infinity,
    toList_nan]
  exact ⟨not_or.mpr ⟨map_toLower_ne_word hu (by simp), map_toLower_ne_word hu (by simp)⟩,
    map_toLower_ne_word hu (by simp)⟩

theorem MantissaText.exists_digit {mt ip fp : List Char} (h : MantissaText mt ip fp) :
    ∃ c ∈ mt, c.isDigit = true := by
  cases h with
  | whole hds =>
    obtain ⟨c, hc⟩ := List.exists_mem_of_ne_nil _ hds.1
    exact ⟨c, hc, hds.2 c hc⟩
  | point hds hne =>
    obtain ⟨c, hc⟩ := List.exists_mem_of_ne_nil _ hne
    refine ⟨c, ?_, hds c hc⟩
    rcases List.mem_append.mp hc with h | h <;> simp [h]

/-- digits followed by a text that does not start with one are the leading digits -/
theorem digits_append {ds r : List Char} (hds : ∀ c ∈ ds, c.isDigit = true)
    (hr : ∀ c ∈ r.head?, c.isDigit = false) :
    (ds ++ r).takeWhile Char.isDigit = ds ∧ (ds ++ r).dropWhile Char.isDigit = r := by
  rw [List.takeWhile_append_of_pos hds, List.dropWhile_append_of_pos hds]
  cases r with
  | nil => exact ⟨List.append_nil ds, rfl⟩
  | cons c r =>
    have hc : ¬ c.isDigit = true := by simp [hr c rfl]
    rw [List.takeWhile_cons_of_neg hc, List.dropWhile_cons_of_neg hc, List.append_nil]
    exact ⟨rfl, rfl⟩

theorem MantissaText.head {mt ip fp : List Char} (h : MantissaText mt ip fp) :
    mt ≠ [] ∧ ∀ c ∈ mt.head?, c ≠ '+' ∧ c ≠ '-' := by
  cases h with
  | whole hds => exact ⟨hds.1, DigitsText.head_not_sign hds⟩
  | @point ip fp hds hne =>
    refine ⟨by simp, fun c hc => ?_⟩
    cases ip with
    | nil =>
      cases hc
      decide
    | cons d ip =>
      cases hc
      exact sign_ne_of_isDigit (hds c (by simp))

/-- an unsigned text is not empty and does not start with a sign -/
theorem UnsignedText.head {neg : Bool} {u : List Char} {lit : FloatLiteral} (h : UnsignedText neg u lit) :
    u ≠ [] ∧ ∀ c ∈ u.head?, c ≠ '+' ∧ c ≠ '-' := by
  cases h with
  | @number mt ip fp et x hmt _ =>
    obtain ⟨hne, hhead⟩ := hmt.head
    cases mt with
    | nil => exact absurd rfl hne
    | cons d mt => exact ⟨by simp, hhead⟩
  | infinity hw =>
    exact word_head (by rcases hw with hw | hw <;> rw [hw] <;> simp [toList_inf, toList_infinity])
  | nan hw => exact word_head (by simp [hw, toList_nan])

/-! ## Float text never holds a NUL -/

theorem SignText.nul_not_mem {sgn : List Char} {neg : Bool} (h : SignText sgn neg) : '\x00' ∉ sgn := by
  cases h <;> decide

theorem DigitsText.nul_not_mem {ds : List Char} (h : DigitsText ds) : '\x00' ∉ ds := fun hmem =>
  absurd (h.2 _ hmem) (by decide)

theorem MantissaText.nul_not_mem {mt ip fp : List Char} (h : MantissaText mt ip fp) : '\x00' ∉ mt := by
  cases h with
  | whole hds => exact hds.nul_not_mem
  | point hds _ =>
    intro hmem
    rcases List.mem_append.mp hmem with hip | hpoint
    · exact absurd (hds _ (List.mem_append_left _ hip)) (by decide)
    · rcases List.mem_cons.mp hpoint with hdot | hfp
      · exact absurd hdot (by decide)
      · exact absurd (hds _ (List.mem_append_right _ hfp)) (by decide)

theorem ExponentText.nul_not_mem {et : List Char} {x : Int} (h : ExponentText et x) : '\x00' ∉ et := by
  cases h with
  | none => simp
  | some hc hs =>
    cases hs with
    | mk hsgn hds =>
      intro hmem
      rcases List.mem_cons.mp hmem with hletter | hrest
      · rcases hc with rfl | rfl <;> exact absurd hletter (by decide)
      · rcases List.mem_append.mp hrest with h | h
        · exact hsgn.nul_not_mem h
        · exact hds.nul_not_mem h

/-- a NUL reads as itself in lower case, and none of the words holds one -/
theorem nul_not_mem_word {w : List Char} {word : String} (hw : w.map Char.toLower = word.toList)
    (hword : '\x00' ∉ word.toList) : '\x00' ∉ w := fun hmem =>
  hword (hw ▸ List.mem_map_of_mem (f := Char.toLower) hmem)

theorem UnsignedText.nul_not_mem {neg : Bool} {u : List Char} {lit : FloatLiteral}
    (h : UnsignedText neg u lit) : '\x00' ∉ u := by
  cases h with
  | number hmt hexp =>
    intro hmem
    rcases List.mem_append.mp hmem with h | h
    · exact hmt.nul_not_mem h
    · exact hexp.nul_not_mem h
  | infinity hw =>
    rcases hw with hw | hw
    · exact nul_not_mem_word hw (by rw [toList_inf]; decide)
    · exact nul_not_mem_word hw (by rw [toList_infinity]; decide)
  | nan hw => exact nul_not_mem_word hw (by rw [toList_nan]; decide)

theorem FloatText.nul_not_mem {s : List Char} {lit : FloatLiteral} (h : FloatText s lit) : '\x00' ∉ s := by
  cases h with
  | mk hs hu =>
    intro hmem
    rcases List.mem_append.mp hmem with h | h
    · exact hs.nul_not_mem h
    · exact hu.nul_not_mem h

/-! ## The reader accepts exactly the grammar -/

namespace FloatLiteral

theorem digitsValue_eq_decimalValue (ds : List Char) : digitsValue ds = decimalValue ds := by
  induction ds using List.reverseRecOn with
  | nil => rfl
  | append_singleton ds c ih =>
    rw [digitsValue, List.foldl_append, ← digitsValue, ih]
    simp [decimalValue, Nat.ofDigits_cons]
    omega

theorem parseExponent_signed {sgn : List Char} {neg : Bool} (hs : SignText sgn neg) {ds : List Char}
    (hds : sgn = [] → ∀ c ∈ ds.head?, c ≠ '+' ∧ c ≠ '-') :
    parseExponent (sgn ++ ds) =
      if ds.isEmpty || !ds.all Char.isDigit then none
      else some (if neg then -(digitsValue ds : Int) else digitsValue ds) := by
  cases hs with
  | none =>
    unfold parseExponent
    split
    rename_i heq
    split at heq
    · rename_i h
      rw [List.nil_append] at h
      exact absurd rfl (hds rfl '+' (by rw [h]; rfl)).1
    · rename_i h
      rw [List.nil_append] at h
      exact absurd rfl (hds rfl '-' (by rw [h]; rfl)).2
    · cases heq
      rfl
  | plus => rfl
  | minus => rfl

/-- the exponent reader accepts exactly the signed runs of digits -/
theorem parseExponent_eq_some_iff (cs : List Char) (x : Int) :
    parseExponent cs = some x ↔ SignedDigits cs x := by
  constructor
  · intro h
    obtain ⟨sgn, neg, ds, hs, rfl, hhead⟩ := SignText.split cs
    rw [parseExponent_signed hs hhead] at h
    split at h
    · cases h
    · rename_i hds
      cases h
      rw [digitsValue_eq_decimalValue]
      exact .mk hs ((digitsText_iff ds).mpr (by simpa using hds))
  · intro h
    cases h with
    | mk hs hds =>
    rw [parseExponent_signed hs (fun _ => DigitsText.head_not_sign hds), if_neg (by simp [(digitsText_iff _).mp hds]),
      digitsValue_eq_decimalValue]

theorem exponentText_iff {r : List Char} {x : Int} :
    (match r with
      | [] => some 0
      | c :: more => if c == 'e' || c == 'E' then parseExponent more else none) = some x ↔
      ExponentText r x := by
  constructor
  · intro h
    split at h
    · cases h
      exact .none
    · rename_i c more
      split_ifs at h with he
      exact .some (by simpa using he) ((parseExponent_eq_some_iff more x).mp h)
  · intro h
    cases h with
    | none => rfl
    | some hc hs =>
      rename_i c s
      have he : (c == 'e' || c == 'E') = true := by rcases hc with rfl | rfl <;> rfl
      simp only [he, if_true]
      exact (parseExponent_eq_some_iff s _).mpr hs

/-- the reader's words and numbers are texts of the grammar -/
theorem unsignedText_of_parseUnsigned {neg : Bool} {u : List Char} {lit : FloatLiteral}
    (h : parseUnsigned neg u = some lit) : UnsignedText neg u lit := by
  unfold parseUnsigned at h
  dsimp only at h
  split_ifs at h with hinf hnan hpoint
  · cases h
    rw [Bool.or_eq_true, lower_beq_iff, lower_beq_iff] at hinf
    exact .infinity hinf
  · cases h
    exact .nan ((lower_beq_iff _ _).mp hnan)
  -- digits, then a point and digits or nothing, then the exponent
  have hu : u = u.takeWhile Char.isDigit ++ u.dropWhile Char.isDigit :=
    List.takeWhile_append_dropWhile.symm
  have hip : ∀ c ∈ u.takeWhile Char.isDigit, c.isDigit = true := fun c hc =>
    List.mem_takeWhile_imp hc
  generalize u.takeWhile Char.isDigit = ip at *
  generalize u.dropWhile Char.isDigit = r at *
  subst hu
  obtain ⟨x, hx, rfl⟩ := Option.map_eq_some_iff.mp h
  revert hpoint hx
  split
  · rename_i more
    have hmore : more = more.takeWhile Char.isDigit ++ more.dropWhile Char.isDigit :=
      List.takeWhile_append_dropWhile.symm
    have hfp : ∀ c ∈ more.takeWhile Char.isDigit, c.isDigit = true := fun c hc =>
      List.mem_takeWhile_imp hc
    generalize more.takeWhile Char.isDigit = fp at *
    generalize more.dropWhile Char.isDigit = r' at *
    subst hmore
    intro hpoint hx
    have hmt : MantissaText (ip ++ '.' :: fp) ip fp :=
      .point (fun c hc => (List.mem_append.mp hc).elim (hip c) (hfp c)) (by simpa using hpoint)
    rw [show ip ++ '.' :: (fp ++ r') = (ip ++ '.' :: fp) ++ r' by simp, digitsValue_eq_decimalValue]
    exact .number hmt (exponentText_iff.mp hx)
  · intro hpoint hx
    have hmt : MantissaText ip ip [] := .whole ⟨by simpa using hpoint, hip⟩
    rw [digitsValue_eq_decimalValue]
    exact .number hmt (exponentText_iff.mp hx)

/-- every text of the grammar is read as the literal it denotes -/
theorem parseUnsigned_of_unsignedText {neg : Bool} {u : List Char} {lit : FloatLiteral}
    (h : UnsignedText neg u lit) : parseUnsigned neg u = some lit := by
  unfold parseUnsigned
  dsimp only
  cases h with
  | infinity hw =>
    rw [if_pos (by rw [Bool.or_eq_true, lower_beq_iff, lower_beq_iff]; exact hw)]
  | nan hw =>
    rw [if_neg (by rw [Bool.or_eq_true, lower_beq_iff, lower_beq_iff, hw, toList_nan, toList_inf,
        toList_infinity]; decide),
      if_pos ((lower_beq_iff _ _).mpr hw)]
  | @number mt ip fp et x hmt hexp =>
    obtain ⟨hinf, hnan⟩ := not_words_of_digit (hmt.exists_digit.imp fun c hc =>
      ⟨List.mem_append_left et hc.1, hc.2⟩)
    rw [if_neg hinf, if_neg hnan]
    have hhead := hexp.head
    cases hmt with
    | whole hds =>
      obtain ⟨htake, hdrop⟩ := digits_append hds.2 fun c hc => (hhead c hc).1
      have hne : mt.isEmpty = false := List.isEmpty_eq_false_iff.mpr hds.1
      simp only [htake, hdrop, hne, Bool.false_and, Bool.false_eq_true, if_false]
      split
      · exact absurd rfl (hhead '.' rfl).2
      · rw [Option.map_eq_some_iff]
        exact ⟨x, exponentText_iff.mpr hexp, by rw [digitsValue_eq_decimalValue]⟩
    | point hds hne =>
      have hip := fun c hc => hds c (List.mem_append_left fp hc)
      have hfp := fun c hc => hds c (List.mem_append_right ip hc)
      obtain ⟨htake, hdrop⟩ := digits_append (r := '.' :: (fp ++ et)) hip (by simp)
      obtain ⟨htake', hdrop'⟩ := digits_append hfp fun c hc => (hhead c hc).1
      have hpoint : (ip.isEmpty && fp.isEmpty) = false := by
        simpa [List.isEmpty_iff] using hne
      rw [List.append_assoc, List.cons_append]
      simp only [htake, hdrop, htake', hdrop', hpoint, Bool.false_eq_true, if_false]
      rw [Option.map_eq_some_iff]
      exact ⟨x, exponentText_iff.mpr hexp, by rw [digitsValue_eq_decimalValue]⟩

theorem parseUnsigned_eq_some_iff (neg : Bool) (u : List Char) (lit : FloatLiteral) :
    parseUnsigned neg u = some lit ↔ UnsignedText neg u lit :=
  ⟨unsignedText_of_parseUnsigned, parseUnsigned_of_unsignedText⟩

theorem parse_signed {sgn : List Char} {neg : Bool} (hs : SignText sgn neg) {u : List Char}
    (hu : sgn = [] → ∀ c ∈ u.head?, c ≠ '+' ∧ c ≠ '-') :
    parse (sgn ++ u) = if u.isEmpty then none else parseUnsigned neg u := by
  cases hs with
  | none =>
    unfold parse
    split
    · next rest h => exact absurd rfl (hu rfl '+' (by rw [List.nil_append] at h; rw [h]; rfl)).1
    · next rest h => exact absurd rfl (hu rfl '-' (by rw [List.nil_append] at h; rw [h]; rfl)).2
    · rfl
  | plus => rfl
  | minus => rfl

/-- **The float reader accepts exactly the grammar.**  `parse` succeeds on a text exactly when
it is an optional sign followed by a decimal mantissa and exponent or one of the words, and
then gives the literal the text denotes. -/
theorem parse_eq_some_iff (cs : List Char) (lit : FloatLiteral) :
    parse cs = some lit ↔ FloatText cs lit := by
  constructor
  · intro h
    obtain ⟨sgn, neg, u, hs, rfl, hhead⟩ := SignText.split cs
    rw [parse_signed hs hhead] at h
    split_ifs at h
    exact .mk hs ((parseUnsigned_eq_some_iff neg u lit).mp h)
  · intro h
    cases h with
    | mk hs hu =>
      obtain ⟨hne, hhead⟩ := hu.head
      rw [parse_signed hs fun _ => hhead, if_neg (by simpa using hne)]
      exact (parseUnsigned_eq_some_iff _ _ _).mpr hu

end FloatLiteral

end RoverKernel
