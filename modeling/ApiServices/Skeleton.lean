import ApiServices.Text.Basic

namespace ApiServices

/-!
# The starter test

A test that does nothing but run, and shows how the fixture file is used.  It
is written once and belongs to the user from then on.
-/

/-- The name of the starter test in the tests directory. -/
def skeletonFileName : Text :=
  "skeleton-test.ts".toList

def skeletonLines : List Text :=
  [ "// This file was auto-generated by playwright-service-generator".toList,
    "import \x7b test, expect \x7d from './base';".toList,
    [],
    "test.describe('Skeleton', () => \x7b".toList,
    ("  test('Creating and updating a person should be successful', ".toList
      ++ "\x7b tag: '@smoke' \x7d, async () => \x7b".toList),
    "    expect(true).toBe(true);".toList,
    "  \x7d);".toList,
    "\x7d);".toList ]

/-- The text of the starter test; every line is ended by a line feed. -/
def skeletonText : Text :=
  skeletonLines.flatMap (· ++ ['\n'])

end ApiServices
