import ApiServices.Proofs.Keyed.Insertion
import ApiServices.Text.Blank
import ApiServices.Text.Case

namespace ApiServices
namespace Text

/-!
# What the case mappings give

A character that no case table lists stays as it is.  What holds of every
entry of a table therefore holds of every character that changes, and is
settled by going through the table once.  The general theorem is
`mapped_eq_self_or`; the others name the properties that the fixture file and
the names of files rest on.
-/

/-- Whether all entries of a case table pass a test.  The test is given a code
point of the table and the code points that it maps to. -/
def tablePasses (test : Nat -> List Nat -> Bool) (runs : List CaseRun)
    (expansions : List (Nat × List Nat)) : Bool :=
  runs.all (fun run => (List.range (run.last + 1 - run.first)).all fun k =>
      k % run.stride != 0 || test (run.first + k) [run.image + k])
    && expansions.all fun entry => test entry.1 entry.2

section Tables

variable {test : Nat -> List Nat -> Bool} {runs : List CaseRun}
  {expansions : List (Nat × List Nat)}

theorem firstImage_eq_self_or (n : Nat) (runs : List CaseRun) :
    firstImage n runs = n ∨ Exists fun run => run ∈ runs ∧ run.image? n = some (firstImage n runs) := by
  induction runs with
  | nil => exact Or.inl rfl
  | cons run rest ih =>
    unfold firstImage
    split
    · exact Or.inl rfl
    · cases found : run.image? n with
      | some image => exact Or.inr ⟨run, List.mem_cons_self, found⟩
      | none =>
        rcases ih with same | ⟨later, member, image⟩
        · exact Or.inl same
        · exact Or.inr ⟨later, List.mem_cons_of_mem run member, image⟩

theorem CaseRun.image?_eq_some {run : CaseRun} {n image : Nat} (found : run.image? n = some image) :
    Exists fun k => k < run.last + 1 - run.first ∧ k % run.stride = 0 ∧ n = run.first + k ∧
      image = run.image + k := by
  unfold CaseRun.image? at found
  split at found
  · next covered =>
    simp only [Bool.and_eq_true, decide_eq_true_eq, beq_iff_eq] at covered
    obtain ⟨⟨low, high⟩, stride⟩ := covered
    refine ⟨n - run.first, ?_, stride, ?_, (Option.some.inj found).symm⟩
    · omega
    · omega
  · cases found

/-- A character stays as it is, or its image passes every test that the table
passes. -/
theorem mapped_eq_self_or (passes : tablePasses test runs expansions = true) (c : Char) :
    mapped runs expansions c = [c] ∨
      Exists fun codes => test c.toNat codes = true ∧
        mapped runs expansions c = codes.map Char.ofNat := by
  obtain ⟨inRuns, inExpansions⟩ := Bool.and_eq_true_iff.mp passes
  unfold mapped
  cases found : expansions.lookup c.toNat with
  | some codes =>
    have entry := List.all_eq_true.mp inExpansions _ (Keyed.mem_of_lookup found)
    exact Or.inr ⟨codes, entry, rfl⟩
  | none =>
    rcases firstImage_eq_self_or c.toNat runs with same | ⟨run, member, image⟩
    · left
      dsimp only
      rw [same, Char.ofNat_toNat]
    · right
      obtain ⟨k, within, stride, source, target⟩ := CaseRun.image?_eq_some image
      have checked := List.all_eq_true.mp (List.all_eq_true.mp inRuns run member) k
        (List.mem_range.mpr within)
      rw [stride] at checked
      refine ⟨[run.image + k], ?_, ?_⟩
      · rw [source]
        simpa using checked
      · rw [← target]
        rfl

/-- Where a property tells the images of a table from the characters that it changes,
the table leaves the images alone. -/
theorem mapped_of_mem_mapped {p : Char -> Bool}
    (apart : tablePasses (fun n codes => !p (Char.ofNat n) && (codes.map Char.ofNat).all p)
      runs expansions = true) {c d : Char} (member : d ∈ mapped runs expansions c) :
    mapped runs expansions d = [d] := by
  rcases mapped_eq_self_or apart c with same | ⟨codes, checked, image⟩
  · rw [same, List.mem_singleton] at member
    exact member ▸ same
  · rw [image] at member
    have reached : p d = true := List.all_eq_true.mp (Bool.and_eq_true_iff.mp checked).2 d member
    rcases mapped_eq_self_or apart d with same | ⟨_, changed, _⟩
    · exact same
    · rw [Char.ofNat_toNat, reached] at changed
      cases changed

/-- The code points that a table maps to, as the bits of a number.  To look one up
takes a single step, so that the whole table can be held against its own images. -/
def imageBits (runs : List CaseRun) (expansions : List (Nat × List Nat)) : Nat :=
  let ofRun (run : CaseRun) : List Nat :=
    ((List.range (run.last + 1 - run.first)).filter (· % run.stride == 0)).map (run.image + ·)
  (runs.flatMap ofRun ++ expansions.flatMap Prod.snd).foldl (fun bits n => bits ||| 1 <<< n) 0

/-- Whether no entry of a case table maps to a character with a property. -/
def bringsInNo (p : Char -> Bool) (runs : List CaseRun) (expansions : List (Nat × List Nat)) :
    Bool :=
  tablePasses (fun _ codes => (codes.map Char.ofNat).all (!p ·)) runs expansions

/-- A property that no entry of a table brings in comes from the character
itself. -/
theorem forall_mem_mapped {p : Char -> Bool} {c : Char}
    (absent : bringsInNo p runs expansions = true) (plain : p c = false) :
    ∀ d ∈ mapped runs expansions c, p d = false := by
  intro d member
  rcases mapped_eq_self_or absent c with same | ⟨codes, checked, image⟩
  · rw [same, List.mem_singleton] at member
    exact member ▸ plain
  · rw [image] at member
    simpa using List.all_eq_true.mp checked d member

/-- So does a single character. -/
theorem notMem_mapped {c d : Char} (absent : bringsInNo (· == d) runs expansions = true)
    (other : c ≠ d) : d ∉ mapped runs expansions c := by
  intro member
  have plain := forall_mem_mapped absent (beq_eq_false_iff_ne.mpr other) d member
  rw [beq_self_eq_true] at plain
  cases plain

/-- A text with its first character mapped by a table.  This is what `lowerFirst` and
`upperFirst` unfold to, so that the lemmas on it are lemmas on both. -/
def mapFirst (runs : List CaseRun) (expansions : List (Nat × List Nat)) : Text -> Text
  | [] => []
  | c :: rest => mapped runs expansions c ++ rest

/-- Mapping the first character of a text brings in no more than the table does. -/
theorem forall_mem_mapFirst {p : Char -> Bool} {text : Text}
    (absent : bringsInNo p runs expansions = true) (plain : ∀ c ∈ text, p c = false) :
    ∀ c ∈ mapFirst runs expansions text, p c = false := by
  cases text with
  | nil => exact plain
  | cons first rest =>
    exact List.forall_mem_append.mpr
      ⟨forall_mem_mapped absent (plain first List.mem_cons_self),
        fun c later => plain c (List.mem_cons_of_mem first later)⟩

theorem notMem_mapFirst {d : Char} {text : Text}
    (absent : bringsInNo (· == d) runs expansions = true) (other : d ∉ text) :
    d ∉ mapFirst runs expansions text := by
  cases text with
  | nil => exact other
  | cons c rest =>
    intro member
    rcases List.mem_append.mp member with first | later
    · exact notMem_mapped absent (fun same : c = d => other (same ▸ List.mem_cons_self)) first
    · exact other (List.mem_cons_of_mem c later)

example : lowerFirst = mapFirst lowerRuns lowerExpansions ∧
    upperFirst = mapFirst upperRuns upperExpansions := ⟨rfl, rfl⟩

end Tables

/-- What holds of all characters below a bound, one by one, holds of a character below
the bound. -/
theorem of_table {bound : Nat} {p : Char -> Prop} (table : forall n : Fin bound, p (Char.ofNat n))
    {c : Char} (small : c.toNat < bound) : p c := by
  have checked := table ⟨c.toNat, small⟩
  rwa [Char.ofNat_toNat] at checked

/-- What is asked of the characters of a text is checked one by one, and not for all
characters that there are. -/
instance (text : Text) (p : Char -> Prop) [DecidablePred p] : Decidable (∀ c ∈ text, p c) :=
  List.decidableBAll p text

/-! ## Lowercase forms -/

theorem lowerChar_ne_nil (c : Char) : lowerChar c ≠ [] := by
  have passes : tablePasses (fun _ codes => !codes.isEmpty) lowerRuns lowerExpansions = true := by
    decide +kernel
  intro empty
  rcases mapped_eq_self_or passes c with same | ⟨codes, nonempty, image⟩
  · rw [lowerChar, same] at empty
    cases empty
  · rw [lowerChar, image, List.map_eq_nil_iff] at empty
    rw [empty] at nonempty
    cases nonempty

/-- The lowercase form of a character that is no white space does not begin
with white space. -/
theorem head_lowerChar_plain {c d : Char} (plain : isBlank c = false)
    (first : (lowerChar c).head? = some d) : isBlank d = false := by
  have passes : tablePasses
      (fun _ codes => (codes.map Char.ofNat).head?.all (!isBlank ·))
      lowerRuns lowerExpansions = true := by
    decide +kernel
  rcases mapped_eq_self_or passes c with same | ⟨codes, checked, image⟩
  · rw [lowerChar, same] at first
    exact Option.some.inj first ▸ plain
  · rw [lowerChar, image] at first
    rw [first] at checked
    simpa using checked

/-- Only the two forms of the letter `i` have a lowercase form with which a
text can begin with `im`.  The capital with a dot above does not: the second
character of its lowercase form is the dot. -/
theorem lowerChar_append_eq_im {c : Char} {rest tail : Text}
    (shape : lowerChar c ++ rest = 'i' :: 'm' :: tail) :
    (c = 'i' ∨ c = 'I') ∧ rest = 'm' :: tail := by
  have passes : tablePasses
      (fun n codes => match codes.map Char.ofNat with
        | [] => false
        | [d] => d != 'i' || Char.ofNat n == 'I'
        | d :: e :: _ => d != 'i' || e != 'm')
      lowerRuns lowerExpansions = true := by
    decide +kernel
  rcases mapped_eq_self_or passes c with same | ⟨codes, checked, image⟩
  · rw [lowerChar, same, List.singleton_append] at shape
    obtain ⟨letter, others⟩ := List.cons.inj shape
    exact ⟨Or.inl letter, others⟩
  · rw [lowerChar, image] at shape
    split at checked
    · cases checked
    · next d single =>
      rw [single, List.singleton_append] at shape
      obtain ⟨letter, others⟩ := List.cons.inj shape
      rw [letter, Char.ofNat_toNat] at checked
      exact ⟨Or.inr (by simpa using checked), others⟩
    · next d e others several =>
      rw [several] at shape
      obtain ⟨letter, following⟩ := List.cons.inj shape
      obtain ⟨second, _⟩ := List.cons.inj following
      rw [letter, second] at checked
      cases checked

/-- One character only has a lowercase form of several characters: the capital
`I` with a dot above, whose dot becomes a character of its own. -/
theorem lowerChar_eq_singleton_or (c : Char) :
    (Exists fun d => lowerChar c = [d]) ∨ lowerChar c = ['i', '\u0307'] := by
  have passes : tablePasses
      (fun _ codes => codes.length == 1 || codes == [0x69, 0x307])
      lowerRuns lowerExpansions = true := by
    decide +kernel
  rcases mapped_eq_self_or passes c with same | ⟨codes, checked, image⟩
  · exact Or.inl ⟨c, same⟩
  · rw [Bool.or_eq_true, beq_iff_eq, beq_iff_eq] at checked
    rcases checked with single | dotted
    · obtain ⟨code, only⟩ := List.length_eq_one_iff.mp single
      exact Or.inl ⟨Char.ofNat code, by rw [lowerChar, image, only]; rfl⟩
    · exact Or.inr (by rw [lowerChar, image, dotted]; rfl)

/-! ## Lowercase and uppercase first letters -/

theorem head_lowerFirst_plain {text : Text}
    (plain : forall c, text.head? = some c -> isBlank c = false) :
    forall d, (lowerFirst text).head? = some d -> isBlank d = false := by
  intro d first
  cases text with
  | nil => cases first
  | cons c rest =>
    cases image : lowerChar c with
    | nil => exact absurd image (lowerChar_ne_nil c)
    | cons e others =>
      rw [lowerFirst, image] at first
      exact head_lowerChar_plain (plain c rfl) (image ▸ first)

theorem lowerFirst_cons_ne_nil (c : Char) (rest : Text) : lowerFirst (c :: rest) ≠ [] :=
  fun empty => lowerChar_ne_nil c (List.append_eq_nil_iff.mp empty).1

theorem lowerFirst_append {text : Text} (nonempty : text ≠ []) (rest : Text) :
    lowerFirst (text ++ rest) = lowerFirst text ++ rest := by
  cases text with
  | nil => exact absurd rfl nonempty
  | cons c others => exact (List.append_assoc (lowerChar c) others rest).symm

/-- Texts without the dot that a lowercase form can bring in have the same form
with a lowercase first letter just where they differ in the case of that letter
at most. -/
theorem lowerFirst_eq_iff {first second : Text} (undotted : '\u0307' ∉ first)
    (alsoUndotted : '\u0307' ∉ second) :
    lowerFirst first = lowerFirst second ↔
      first.head?.map lowerChar = second.head?.map lowerChar ∧ first.tail = second.tail := by
  cases first with
  | nil =>
    cases second with
    | nil => exact iff_of_true rfl ⟨rfl, rfl⟩
    | cons d others =>
      apply iff_of_false
      · exact fun same => lowerFirst_cons_ne_nil d others same.symm
      · exact fun same => nomatch same.1
  | cons c rest =>
    cases second with
    | nil =>
      apply iff_of_false
      · exact lowerFirst_cons_ne_nil c rest
      · exact fun same => nomatch same.1
    | cons d others =>
      change lowerChar c ++ rest = lowerChar d ++ others ↔
        some (lowerChar c) = some (lowerChar d) ∧ rest = others
      constructor
      · intro same
        have apart : '\u0307' ∉ rest ∧ '\u0307' ∉ others :=
          ⟨fun member => undotted (List.mem_cons_of_mem c member),
            fun member => alsoUndotted (List.mem_cons_of_mem d member)⟩
        rcases lowerChar_eq_singleton_or c with ⟨e, single⟩ | dotted <;>
          rcases lowerChar_eq_singleton_or d with ⟨g, alsoSingle⟩ | alsoDotted
        · rw [single, alsoSingle] at same ⊢
          obtain ⟨letters, tails⟩ := List.cons.inj same
          exact ⟨by rw [letters], tails⟩
        · rw [single, alsoDotted] at same
          have dot : rest = '\u0307' :: others := (List.cons.inj same).2
          exact absurd (dot ▸ List.mem_cons_self) apart.1
        · rw [dotted, alsoSingle] at same
          have dot : '\u0307' :: rest = others := (List.cons.inj same).2
          exact absurd (dot ▸ List.mem_cons_self) apart.2
        · rw [dotted, alsoDotted] at same ⊢
          exact ⟨rfl, List.append_cancel_left same⟩
      · rintro ⟨letters, tails⟩
        rw [Option.some.inj letters, tails]

/-! ## Lowercase texts -/

/-- What is in the lowercase form of a text is in the lowercase form of one of its
characters, apart from the forms of the sigma. -/
theorem notMem_lowerAfter {d : Char} {before text : Text} (noSigma : d ∉ ['ς', 'σ'])
    (absent : ∀ c ∈ text, d ∉ lowerChar c) : d ∉ lowerAfter before text := by
  induction text generalizing before with
  | nil => exact List.not_mem_nil
  | cons c rest ih =>
    obtain ⟨here, later⟩ := List.forall_mem_cons.mp absent
    intro member
    rcases List.mem_append.mp member with first | others
    · split at first
      · apply noSigma
        split at first
        · exact List.mem_singleton.mp first ▸ List.mem_cons_self
        · exact List.mem_cons_of_mem _ first
      · exact here first
    · exact ih later others

/-- A character that no lowercase form brings in stays absent from the lowercase
form of a text. -/
theorem notMem_lower {d : Char} {text : Text}
    (absent : bringsInNo (· == d) lowerRuns lowerExpansions = true) (noSigma : d ∉ ['ς', 'σ'])
    (other : d ∉ text) : d ∉ lower text :=
  notMem_lowerAfter noSigma fun _ member =>
    notMem_mapped absent fun same => other (same ▸ member)

/-- A character that is not its own lowercase form is in no lowercase form. -/
theorem notMem_lowerChar {d : Char} (absent : bringsInNo (· == d) lowerRuns lowerExpansions = true)
    (capital : d ∉ lowerChar d) (c : Char) : d ∉ lowerChar c := by
  by_cases same : c = d
  · exact same ▸ capital
  · exact notMem_mapped absent same

/-- No lowercase form has another lowercase form. -/
theorem lowerChar_of_mem_lowerChar {c d : Char} (member : d ∈ lowerChar c) : lowerChar d = [d] := by
  have apart : tablePasses
      (fun n codes => !(imageBits lowerRuns lowerExpansions).testBit (Char.ofNat n).toNat &&
        (codes.map Char.ofNat).all fun image =>
          (imageBits lowerRuns lowerExpansions).testBit image.toNat)
      lowerRuns lowerExpansions = true := by
    decide +kernel
  exact mapped_of_mem_mapped (p := fun c => (imageBits lowerRuns lowerExpansions).testBit c.toNat)
    apart member

theorem lowerChar_of_mem_lowerAfter {c : Char} {before text : Text}
    (member : c ∈ lowerAfter before text) : lowerChar c = [c] := by
  induction text generalizing before with
  | nil => cases member
  | cons first rest ih =>
    rcases List.mem_append.mp member with image | later
    · -- both forms of the small sigma stay as they are
      split at image
      · split at image <;> rw [List.mem_singleton.mp image] <;> decide +kernel
      · exact lowerChar_of_mem_lowerChar image
    · exact ih later

/-- A text of characters that are their own lowercase forms is lowercase.  There is no
capital sigma in it, so that its words do not matter. -/
theorem lowerAfter_eq_self {before text : Text} (settled : ∀ c ∈ text, lowerChar c = [c]) :
    lowerAfter before text = text := by
  induction text generalizing before with
  | nil => rfl
  | cons c rest ih =>
    obtain ⟨first, later⟩ := List.forall_mem_cons.mp settled
    have other : c ≠ 'Σ' := by
      intro same
      rw [same] at first
      exact absurd first (by decide +kernel)
    rw [lowerAfter, if_neg other, first, ih later]
    rfl

/-- A lowercase text is its own lowercase form. -/
theorem lower_lower (text : Text) : lower (lower text) = lower text :=
  lowerAfter_eq_self fun _ member => lowerChar_of_mem_lowerAfter member

theorem lowerFirst_lower (text : Text) : lowerFirst (lower text) = lower text := by
  cases lowered : lower text with
  | nil => rfl
  | cons c rest =>
    have member : c ∈ lower text := lowered ▸ List.mem_cons_self
    have settled : lowerChar c = [c] := lowerChar_of_mem_lowerAfter member
    rw [lowerFirst, settled]
    rfl

theorem lower_eq_nil_iff {text : Text} : lower text = [] ↔ text = [] := by
  cases text with
  | nil => exact iff_of_true rfl rfl
  | cons c rest =>
    refine iff_of_false ?_ (List.cons_ne_nil c rest)
    intro empty
    have image := (List.append_eq_nil_iff.mp empty).1
    split at image
    · split at image <;> cases image
    · exact lowerChar_ne_nil c image

end Text
end ApiServices
