import ApiServices.Fixture.Reader
import ApiServices.Proofs.Text.Lines
import ApiServices.Proofs.Text.Trimming

namespace ApiServices
namespace FixtureImport

/-!
# How an import is spelled

A line that imports one list of bindings can be spelled with white space of any
kind between its parts, with quotes of either kind, which need not match, and
with or without a semicolon.  Reading a line succeeds for exactly these
spellings.  Whether the list has a single binding is not a matter of spelling.
-/

/-- A text of white space and nothing else. -/
def Blank (gap : Text) : Prop :=
  ∀ c ∈ gap, Text.isBlank c = true

theorem blank_space : Blank [' '] := by
  intro c member
  rw [List.mem_singleton.mp member]
  decide

theorem blank_nil : Blank [] := by
  intro c member
  cases member

/-- The spellings of an import, by its binding list and its path. -/
inductive Spelling : Text -> FixtureImport -> Prop
  | named (afterWord inside afterBraces afterFrom path afterPath ending : Text)
      (opening closing : Char)
      (blank : ∀ gap ∈ [afterWord, afterBraces, afterFrom, afterPath], Blank gap)
      (unbraced : '}' ∉ inside)
      (quotes : isQuote opening = true ∧ isQuote closing = true)
      (located : path ≠ [])
      (unquoted : ∀ c ∈ path, isQuote c = false)
      (ended : ending = [] ∨ ending = [';']) :
      Spelling
        ("import".toList ++ afterWord ++ '{' :: inside ++ '}' :: afterBraces ++ "from".toList
          ++ afterFrom ++ opening :: path ++ closing :: afterPath ++ ending)
        ⟨Text.trim inside, path⟩

/-! ## The parts -/

theorem braced?_append {inside after : Text} (unbraced : '}' ∉ inside) :
    braced? ('{' :: (inside ++ '}' :: after)) = some (inside, after) := by
  have plain : ∀ c ∈ inside, (c != '}') = true := by
    intro c member
    exact bne_iff_ne.mpr fun same => unbraced (same ▸ member)
  have beyond : (inside ++ '}' :: after).dropWhile (· != '}') = '}' :: after := by
    rw [List.dropWhile_append_of_pos plain]
    rfl
  have before : (inside ++ '}' :: after).takeWhile (· != '}') = inside := by
    rw [List.takeWhile_append_of_pos plain]
    simp
  simp only [braced?, beyond, before]

/-- What stands before the first closing brace of a text, and what follows it,
is determined. -/
theorem eq_of_first_brace {before other after following : Text} (unbraced : '}' ∉ before)
    (otherUnbraced : '}' ∉ other) (same : before ++ '}' :: after = other ++ '}' :: following) :
    before = other ∧ after = following := by
  have read := @braced?_append before after unbraced
  rw [same, braced?_append otherUnbraced] at read
  exact Prod.mk.inj (Option.some.inj read.symm)

theorem braced?_eq_some {text inside after : Text} (found : braced? text = some (inside, after)) :
    text = '{' :: (inside ++ '}' :: after) ∧ '}' ∉ inside := by
  unfold braced? at found
  split at found
  · next rest =>
    split at found
    · cases found
    · next closing beyond shape =>
      obtain ⟨before, following⟩ := Prod.mk.inj (Option.some.inj found)
      have stopped : closing = '}' := by
        have head := List.head?_dropWhile_not (· != '}') rest
        rw [shape] at head
        simpa using head
      rw [stopped, following] at shape
      have whole : rest = inside ++ '}' :: after := by
        calc
          rest = rest.takeWhile (· != '}') ++ rest.dropWhile (· != '}') :=
            List.takeWhile_append_dropWhile.symm
          _ = inside ++ '}' :: after := by rw [before, shape]
      refine ⟨by rw [whole], ?_⟩
      intro member
      rw [← before] at member
      exact absurd (List.mem_takeWhile_imp member) (by decide)
  · cases found

theorem quoted?_append {path after : Text} {opening closing : Char}
    (quotes : isQuote opening = true ∧ isQuote closing = true) (located : path ≠ [])
    (unquoted : ∀ c ∈ path, isQuote c = false) :
    quoted? (opening :: (path ++ closing :: after)) = some (path, after) := by
  have plain : ∀ c ∈ path, (!isQuote c) = true := by
    intro c member
    rw [unquoted c member]
    rfl
  have beyond : (path ++ closing :: after).dropWhile (!isQuote ·) = closing :: after := by
    rw [List.dropWhile_append_of_pos plain]
    simp [quotes.2]
  have before : (path ++ closing :: after).takeWhile (!isQuote ·) = path := by
    rw [List.takeWhile_append_of_pos plain]
    simp [quotes.2]
  simp only [quoted?, beyond, before]
  cases path with
  | nil => exact absurd rfl located
  | cons c rest => exact if_pos quotes.1

theorem quoted?_eq_some {text path after : Text} (found : quoted? text = some (path, after)) :
    Exists fun opening => Exists fun closing =>
      text = opening :: (path ++ closing :: after) ∧
        (isQuote opening = true ∧ isQuote closing = true) ∧ path ≠ [] ∧
          ∀ c ∈ path, isQuote c = false := by
  unfold quoted? at found
  split at found
  · cases found
  · next opening rest =>
    split at found
    · next first others closing beyond before shape =>
      split at found
      · next opens =>
        obtain ⟨inside, following⟩ := Prod.mk.inj (Option.some.inj found)
        rw [inside] at before
        have closes : isQuote closing = true := by
          have head := List.head?_dropWhile_not (!isQuote ·) rest
          rw [shape] at head
          simpa using head
        refine ⟨opening, closing, ?_, ⟨opens, closes⟩, ?_, ?_⟩
        · rw [← following, ← shape, ← before, List.takeWhile_append_dropWhile]
        · rw [← inside]
          exact List.cons_ne_nil first others
        · intro c member
          rw [← before] at member
          simpa using List.mem_takeWhile_imp (p := fun c => !isQuote c) member
      · cases found
    · cases found

/-! ## The whole line -/

theorem parse?_of_spelling {line : Text} {found : FixtureImport} (spelled : Spelling line found) :
    parse? line = some found := by
  cases spelled with
  | named afterWord inside afterBraces afterFrom path afterPath ending opening closing blank
      unbraced quotes located unquoted ended =>
    have plainBrace : Text.isBlank '{' = false := by decide
    have plainQuote : Text.isBlank opening = false := by
      have either : opening = '\'' ∨ opening = '"' := by
        simpa [isQuote] using quotes.1
      rcases either with single | double
      · rw [single]
        decide
      · rw [double]
        decide
    have plainWord : forall rest, Text.dropBlanks ("from".toList ++ rest) = "from".toList ++ rest := by
      intro rest
      rw [show "from".toList = ['f', 'r', 'o', 'm'] from rfl]
      exact Text.dropBlanks_cons_of_plain _ (by decide)
    unfold parse?
    simp only [List.append_assoc, List.cons_append]
    rw [Text.isPrefixOf?_append]
    simp only [Option.bind_eq_bind, Option.bind_some]
    rw [Text.dropBlanks_append_of_blank _ (blank afterWord (by simp)),
      Text.dropBlanks_cons_of_plain _ plainBrace, braced?_append unbraced]
    simp only [Option.bind_some]
    rw [Text.dropBlanks_append_of_blank _ (blank afterBraces (by simp)), plainWord,
      Text.isPrefixOf?_append]
    simp only [Option.bind_some]
    rw [Text.dropBlanks_append_of_blank _ (blank afterFrom (by simp)),
      Text.dropBlanks_cons_of_plain _ plainQuote, quoted?_append quotes located unquoted]
    simp only [Option.bind_some]
    rw [Text.dropBlanks_append_of_blank _ (blank afterPath (by simp))]
    rcases ended with none | semicolon
    · rw [none]
      rfl
    · rw [semicolon, Text.dropBlanks_cons_of_plain _ (by decide)]
      rfl

theorem spelling_of_parse? {line : Text} {found : FixtureImport}
    (read : parse? line = some found) : Spelling line found := by
  unfold parse? at read
  simp only [Option.bind_eq_bind, Option.bind_eq_some_iff] at read
  obtain ⟨afterWord, word, ⟨inside, afterBraces⟩, braces, afterFrom, from_, ⟨path, afterPath⟩,
    quotes, ending⟩ := read
  obtain ⟨gap₁, blank₁, shape₁⟩ := Text.exists_eq_append_dropBlanks afterWord
  obtain ⟨gap₂, blank₂, shape₂⟩ := Text.exists_eq_append_dropBlanks afterBraces
  obtain ⟨gap₃, blank₃, shape₃⟩ := Text.exists_eq_append_dropBlanks afterFrom
  obtain ⟨gap₄, blank₄, shape₄⟩ := Text.exists_eq_append_dropBlanks afterPath
  obtain ⟨inBraces, unbraced⟩ := braced?_eq_some braces
  obtain ⟨opening, closing, inQuotes, quoting, located, unquoted⟩ := quoted?_eq_some quotes
  have blank : ∀ gap ∈ [gap₁, gap₂, gap₃, gap₄], Blank gap := by
    simp only [List.mem_cons, List.not_mem_nil, or_false, forall_eq_or_imp, forall_eq]
    exact ⟨blank₁, blank₂, blank₃, blank₄⟩
  have outcome : found = ⟨Text.trim inside, path⟩ ∧
      (Text.dropBlanks afterPath = [] ∨ Text.dropBlanks afterPath = [';']) := by
    split at ending
    · next none => exact ⟨(Option.some.inj ending).symm, Or.inl none⟩
    · next semicolon => exact ⟨(Option.some.inj ending).symm, Or.inr semicolon⟩
    · cases ending
  have spelled := Spelling.named gap₁ inside gap₂ gap₃ path gap₄ (Text.dropBlanks afterPath)
    opening closing blank unbraced quoting located unquoted outcome.2
  have whole : line = "import".toList ++ gap₁ ++ '{' :: inside ++ '}' :: gap₂ ++ "from".toList
      ++ gap₃ ++ opening :: path ++ closing :: gap₄ ++ Text.dropBlanks afterPath := by
    rw [Text.isPrefixOf?_eq_some_iff.mp word, shape₁, inBraces, shape₂,
      Text.isPrefixOf?_eq_some_iff.mp from_, shape₃, inQuotes]
    simp only [List.append_assoc, List.cons_append]
    rw [← shape₄]
  rw [whole, outcome.1]
  exact spelled

/-- Reading succeeds for exactly the spellings of an import. -/
theorem parse?_eq_some_iff {line : Text} {found : FixtureImport} :
    parse? line = some found ↔ Spelling line found :=
  ⟨spelling_of_parse?, parse?_of_spelling⟩

/-- Without a closing brace there is no import to be read. -/
theorem parse?_of_unbraced {line : Text} (unbraced : '}' ∉ line) : parse? line = none := by
  cases read : parse? line with
  | none => rfl
  | some found =>
    cases parse?_eq_some_iff.mp read with
    | named => simp at unbraced

end FixtureImport
end ApiServices
