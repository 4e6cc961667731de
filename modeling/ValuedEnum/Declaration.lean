import ValuedEnum.Host
import ValuedEnum.UnitName

/-!
# Declarations

A declaration is all that is known of an annotated enumeration: its variants, and the members among
them with their ordinals and values. `Resolution.ofItem` finds it, or the fault that stops it.
-/

namespace ValuedEnum

/-- A tagged variant. -/
structure Member where
  ident : Ident
  ordinal : Int64
  values : List Value
deriving Repr, Inhabited

namespace Member

/-- The types of a member's values, in their order. -/
def types (member : Member) : List ValueType := member.values.map Value.type

/-- Whether a member has as many values as there are types, each of them of the type at its
position. -/
def hasTypes (member : Member) (types : List ValueType) : Bool :=
  member.values.length = types.length &&
    (member.values.zip types).all fun (value, type) => value.type = type

/-- Values that have some types one by one have these types. -/
theorem hasTypes_eq (member : Member) (types : List ValueType) :
    member.hasTypes types = decide (member.types = types) := by
  unfold hasTypes Member.types
  induction member.values generalizing types with
  | nil => cases types <;> simp
  | cons value rest ih =>
    cases types with
    | nil => simp
    | cons type types => simp [← ih, Bool.and_left_comm]

end Member

/-- The types that all members have in common position by position, or nothing if two members
differ. The first member proposes them. -/
def commonTypes? : List Member → Option (List ValueType)
  | [] => some []
  | member :: rest =>
    if rest.all fun other => other.hasTypes member.types then some member.types else none

/-- The types of the first member are common if all others have the same ones. -/
theorem commonTypes?_cons (member : Member) (rest : List Member) :
    commonTypes? (member :: rest) =
      if rest.all fun other => other.types = member.types then some member.types else none := by
  simp only [commonTypes?, Member.hasTypes_eq]

/-- What is found out about an annotated enumeration. -/
structure Declaration where
  visibility : Visibility
  repr : IntegerType
  ident : Ident
  /-- The modules around the enumeration and its name, joined by `::`. -/
  fullName : String
  wrapper : Ident
  convertOrdinal : Bool
  throwOnCastFailure : Bool
  /-- All variants, tagged or not. -/
  variants : List Ident
  members : List Member
  types : Option (List ValueType)
deriving Repr, Inhabited

namespace Declaration

/-- The modules around the enumeration, joined as in its full name. -/
def space (declaration : Declaration) : Option String :=
  namespaceOf? declaration.fullName declaration.ident.text

/-- The name of the unit that the code of the wrapper is written to. -/
def unitName (declaration : Declaration) : String :=
  ValuedEnum.unitName declaration.space declaration.wrapper.text

end Declaration

/-- Why there is no declaration. -/
inductive Fault where
  | invalid (problem : Problem)
  | panicked (panic : Panic)
deriving Repr, Inhabited

/-- What is wrong, or the text of the panic. -/
def Fault.message : Fault → String
  | invalid problem => problem.message
  | panicked panic => "generator panicked: " ++ panic.message

/-- The members that were found, up to the fault that ended the search. -/
structure Resolution where
  members : List Member
  fault : Option Fault
deriving Repr, Inhabited

namespace Resolution

/-- A search that ends at once with a fault. -/
def stopped (fault : Fault) : Resolution := ⟨[], some fault⟩

/-- The resolution with a member in front. -/
def cons (member : Member) (resolution : Resolution) : Resolution :=
  ⟨member :: resolution.members, resolution.fault⟩

/-- What a variant is found to be. -/
inductive Step where
  | untagged (ordinal : Int64)
  | member (member : Member)
  | fault (fault : Fault)

/-- A variant that would have `preset` as its ordinal if it were not given another one. -/
def step (host : Host) (variant : Variant) (preset : Int64) : Step :=
  match variant.fields with
  | some fields => .fault (.invalid ⟨.notAUnitVariant, fields.span⟩)
  | none =>
    match host.initializer variant with
    | .error panic => .fault (.panicked panic)
    | .ok initializer =>
      let ordinal := initializer.getD preset
      match host.variantValues variant with
      | .error panic => .fault (.panicked panic)
      | .ok none => .untagged ordinal
      | .ok (some (.error problem)) => .fault (.invalid problem)
      | .ok (some (.ok values)) => .member ⟨variant.ident, ordinal, values⟩

/-- The members among some variants. Each variant counts up the ordinal, which wraps around. -/
def ofVariants (host : Host) : List Variant → (ordinal : Int64) → Resolution
  | [], _ => ⟨[], none⟩
  | variant :: rest, ordinal =>
    match step host variant ordinal with
    | .fault fault => stopped fault
    | .untagged ordinal => ofVariants host rest (ordinal + 1)
    | .member member => (ofVariants host rest (member.ordinal + 1)).cons member

end Resolution

namespace Declaration

/-- The contents of a representation attribute that are primitive integer types. -/
def primitive? (content : Path × AttributeBody) : Option IntegerType :=
  content.1.ident?.bind fun ident => IntegerType.ofName? ident.text

/-- The type that represents the ordinals: the first primitive that an attribute names. -/
def representation : List Attribute → Except Problem IntegerType
  | [] => .ok .i32
  | attr :: rest =>
    if attr.path.isWord "repr" then
      match Host.attributeArguments attr Grammar.contents with
      | .error problem => .error problem
      | .ok hints =>
        match hints.findSome? primitive? with
        | some type => .ok type
        | none => representation rest
    else representation rest

/-- The declaration of an enumeration with its resolution. -/
def ofResolution (item : EnumItem) (fullName : String) (options : WrapperOptions)
    (repr : IntegerType) (members : List Member) : Declaration where
  visibility := item.visibility
  repr := repr
  ident := item.ident
  fullName := fullName
  wrapper := options.name
  convertOrdinal := options.convertOrdinal
  throwOnCastFailure := options.throwOnCastFailure
  variants := item.variants.map Variant.ident
  members := members
  types := commonTypes? members

/-- The declaration of an annotated enumeration, with all members that were found on the way. -/
def resolve (host : Host) (item : EnumItem) (fullName : String)
    (options : Except Problem WrapperOptions) : List Member × Except Fault Declaration :=
  match options with
  | .error problem => ([], .error (.invalid problem))
  | .ok options =>
    if item.variants.isEmpty then ([], .error (.invalid ⟨.noVariants, item.braces⟩))
    else
      match representation item.attributes with
      | .error problem => ([], .error (.invalid problem))
      | .ok repr =>
        let resolution := Resolution.ofVariants host item.variants 0
        (resolution.members,
          match resolution.fault with
          | some fault => .error fault
          | none => .ok (ofResolution item fullName options repr resolution.members))

end Declaration

end ValuedEnum
