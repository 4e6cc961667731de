import ValuedEnum.Token.Basic

/-!
# Fragments

A fragment that is handed on arrives in an invisible group. In a text such a group is written as a
marker in front of parentheses.
-/

namespace ValuedEnum

/-- The word in front of the contents of an invisible group. -/
def fragmentMarker : String := "__group"

namespace TokenTree

/-- Makes the marked groups of a list invisible, but none inside of its groups. -/
def joinMarkers : List TokenTree → List TokenTree
  | .ident name :: .group .parenthesis inner span :: rest =>
    if name.text = fragmentMarker then .group .invisible inner span :: joinMarkers rest
    else .ident name :: joinMarkers (.group .parenthesis inner span :: rest)
  | tree :: rest => tree :: joinMarkers rest
  | [] => []

mutual

/-- Makes all marked groups inside of a tree invisible. -/
def withFragments : TokenTree → TokenTree
  | group delimiter inner span => group delimiter (joinMarkers (withFragmentsAll inner)) span
  | tree => tree

/-- Makes all marked groups inside of some trees invisible. -/
def withFragmentsAll : List TokenTree → List TokenTree
  | [] => []
  | tree :: rest => withFragments tree :: withFragmentsAll rest

end

end TokenTree

/-- Makes all marked groups of a text invisible. -/
def TokenStream.withFragments (tokens : TokenStream) : TokenStream :=
  TokenTree.joinMarkers (TokenTree.withFragmentsAll tokens)

end ValuedEnum
