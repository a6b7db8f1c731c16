import ApiServices.Naming
import ApiServices.Proofs.Text.CaseMapping
import ApiServices.Proofs.Text.Lines

namespace ApiServices

/-!
# Names grow with their routes

A derived method name is the lowercase verb, followed by what each segment of the route
adds.  A slash separates segments wherever it stands, so a longer route has the name of
the shorter one with something behind it, and this does not depend on the verb or on
what stood before.  Only segments that are there count: slashes alone add nothing, and
neither does a query.

Two places could get in the way.  An empty route is named separately, and the first
letter of a finished name is made lowercase once more.  Both are harmless behind a verb,
because a lowercase text is its own lowercase form.
-/

namespace MethodName

variable {verb route rest : Text}

/-! ## Segments of longer routes -/

/-- A slash separates the segments on both sides, unless it is part of a query. -/
theorem segments_append_slash (before after : Text) :
    segments (before ++ '/' :: after) =
      segments before ++ if '?' ∈ before then [] else segments after := by
  unfold segments
  split
  · next query => rw [Text.upTo_append_of_mem query, List.append_nil]
  · next plain =>
    have slash : Text.upTo '?' ('/' :: after) = '/' :: Text.upTo '?' after := rfl
    rw [Text.upTo_append_of_notMem plain, slash, Text.runsBetween_append_separator _ _ _ _ rfl,
      Text.upTo_of_notMem plain]

theorem segments_append_query (route query : Text) :
    segments (route ++ '?' :: query) = segments route := by
  unfold segments
  by_cases earlier : '?' ∈ route
  · rw [Text.upTo_append_of_mem earlier]
  · have none : Text.upTo '?' ('?' :: query) = [] := rfl
    rw [Text.upTo_append_of_notMem earlier, none, List.append_nil, Text.upTo_of_notMem earlier]

theorem segments_slash (route : Text) : segments ('/' :: route) = segments route :=
  segments_append_slash [] route

theorem segments_append_slashes (before after : Text) :
    segments (before ++ '/' :: '/' :: after) = segments (before ++ '/' :: after) := by
  rw [segments_append_slash, segments_append_slash, segments_slash]

theorem segments_concat_slash (route : Text) : segments (route ++ ['/']) = segments route := by
  rw [segments_append_slash]
  split <;> exact List.append_nil _

/-! ## Names of longer routes -/

/-- What the segments of a route add to a name. -/
def addition (route : Text) : Text :=
  (segments route).flatMap ofSegment

/-- An empty route is no exception. -/
theorem ofRoute_eq (verb route : Text) :
    ofRoute verb route = Text.lowerFirst (Text.lower verb ++ addition route) := by
  unfold ofRoute
  split
  · next empty =>
    rw [List.isEmpty_iff.mp empty]
    change _ = Text.lowerFirst (Text.lower verb ++ [])
    rw [List.append_nil, Text.lowerFirst_lower]
  · rfl

theorem ofRoute_congr (verb : Text) {other : Text} (same : segments route = segments other) :
    ofRoute verb route = ofRoute verb other := by
  rw [ofRoute_eq, ofRoute_eq, addition, addition, same]

/-- Behind a verb the name is the verb and the additions. -/
theorem ofRoute_of_verb (named : verb ≠ []) (route : Text) :
    ofRoute verb route = Text.lower verb ++ addition route := by
  have nonempty : Text.lower verb ≠ [] := mt Text.lower_eq_nil_iff.mp named
  rw [ofRoute_eq, Text.lowerFirst_append nonempty, Text.lowerFirst_lower]

theorem addition_append_slash (plain : '?' ∉ route) (rest : Text) :
    addition (route ++ '/' :: rest) = addition route ++ addition rest := by
  rw [addition, segments_append_slash, if_neg plain, List.flatMap_append]
  rfl

theorem ofRoute_lower (verb route : Text) : ofRoute (Text.lower verb) route = ofRoute verb route := by
  rw [ofRoute_eq, ofRoute_eq, Text.lower_lower]

/-- The name of a method follows its route: a slash and more segments put something
behind the name that depends on these segments only, while queries, further slashes and
the case of the verb make no difference. -/
theorem methodName_follows_route (verb route : Text) :
    (verb ≠ [] -> '?' ∉ route -> forall rest, methodName verb (route ++ '/' :: rest) none =
        methodName verb route none ++ addition rest) ∧
      (forall query, methodName verb (route ++ '?' :: query) none = methodName verb route none) ∧
      (forall rest, methodName verb (route ++ '/' :: '/' :: rest) none =
        methodName verb (route ++ '/' :: rest) none) ∧
      methodName verb ('/' :: route) none = methodName verb route none ∧
      methodName verb (route ++ ['/']) none = methodName verb route none ∧
      methodName (Text.lower verb) route none = methodName verb route none := by
  refine ⟨fun named plain rest => ?_, fun query => ?_, fun rest => ?_, ?_, ?_, ?_⟩
  · change ofRoute verb (route ++ '/' :: rest) = ofRoute verb route ++ addition rest
    rw [ofRoute_of_verb named, ofRoute_of_verb named, addition_append_slash plain, List.append_assoc]
  · exact ofRoute_congr verb (segments_append_query route query)
  · exact ofRoute_congr verb (segments_append_slashes route rest)
  · exact ofRoute_congr verb (segments_slash route)
  · exact ofRoute_congr verb (segments_concat_slash route)
  · exact ofRoute_lower verb route

/-- A brace that a slash cuts off, a verb that ends in a capital sigma, and a query
behind an addition that begins with slashes. -/
theorem methodName_follows_cutRoute : "ΟΔΟΣ".toList ≠ [] ∧ '?' ∉ "//\x7ba".toList ∧
    methodName "ΟΔΟΣ".toList ("//\x7ba".toList ++ '/' :: "//b\x7d/\x7bc\x7d?d".toList) none =
      methodName "ΟΔΟΣ".toList "//\x7ba".toList none ++ "BByC".toList := by
  have named : "ΟΔΟΣ".toList ≠ [] := by decide
  have plain : '?' ∉ "//\x7ba".toList := by decide
  have added : addition "//b\x7d/\x7bc\x7d?d".toList = "BByC".toList := by decide +kernel
  refine ⟨named, plain, ?_⟩
  rw [← added]
  exact (methodName_follows_route "ΟΔΟΣ".toList "//\x7ba".toList).1 named plain _

/-- Without a verb the first addition does not keep its capital letter. -/
example : methodName [] "/a".toList none = "a".toList ∧ addition "a".toList = "A".toList := by
  decide +kernel

end MethodName
end ApiServices
