import ValuedEnum.Source.Enumeration

/-!
# Schemas

A schema names the attribute of an enumeration that asks for a wrapper, and the attribute of a
variant that holds its values.
-/

namespace ValuedEnum

/-- The names of the attributes that ask for wrappers and hold values. -/
structure Schema where
  wrapper : String
  value : String
deriving DecidableEq, Repr

namespace Schema

/-- The names that are used if no others are given. -/
def standard : Schema := ⟨"enum_with_values", "value"⟩

instance : Inhabited Schema := ⟨standard⟩

/-- The wrapper attribute may be reached through any path. -/
def isWrapper (schema : Schema) (attr : Attribute) : Bool := attr.path.last.text = schema.wrapper

/-- The value attribute is a word of its own. -/
def isValue (schema : Schema) (attr : Attribute) : Bool := attr.path.isWord schema.value

/-- A variant without the attributes that hold values. -/
def stripVariant (schema : Schema) (variant : Variant) : Variant :=
  { variant with attributes := variant.attributes.filter (!schema.isValue ·) }

/-- The enumeration without the attributes that the schema names. -/
def strip (schema : Schema) (item : EnumItem) : EnumItem :=
  { item with
    attributes := item.attributes.filter (!schema.isWrapper ·)
    variants := item.variants.map schema.stripVariant }

end Schema

end ValuedEnum
