import ValuedEnum.Generation

/-!
# Expanding the attribute

The attribute on an item is replaced by what it generates. An enumeration that can not be wrapped
stays as it is, without the attributes of the schema.
-/

namespace ValuedEnum

namespace Expansion

/-- The attribute with its arguments. -/
def wrapperAttribute (arguments : TokenStream) : Attribute where
  pound := .nowhere
  brackets := .nowhere
  path := ⟨none, ⟨Schema.standard.wrapper, .nowhere⟩, []⟩
  body := .list .parenthesis arguments .nowhere

/-- An item with the attribute in front of its own ones. -/
def annotated (arguments : TokenStream) (item : EnumItem) : EnumItem :=
  { item with attributes := wrapperAttribute arguments :: item.attributes }

/-- Code that makes a compiler report an error. -/
def compileError (message : String) : TokenStream :=
  TokenStream.sign "::" ++ TokenStream.path ["core", "compile_error"] ++ TokenStream.sign "!" ++
    TokenStream.braced [.literal (String.ofList (Text.quote message.toList)) .nowhere]

/-- What an enumeration becomes. -/
def enumeration (arguments : TokenStream) (item : EnumItem) : TokenStream :=
  let item := annotated arguments item
  match (Host.ofSchema .standard).generate [.enumeration item] with
  | .ok generation =>
    match generation.outcomes.getLast? with
    | some (.ok unit) => unit.tokens
    | _ => (Schema.standard.strip item).tokens
  | .error _ => (Schema.standard.strip item).tokens

end Expansion

/-- What an item with the attribute becomes. -/
def expand (arguments item : TokenStream) : TokenStream :=
  match Grammar.enumeration .whole item with
  | .ok enumeration => Expansion.enumeration arguments enumeration
  | .error _ => Expansion.compileError "expected enum" ++ item

end ValuedEnum
