import Formula.Fault

/-!
# Access to properties and indexes

An access resolves names and indexes against an instance. The default one looks a name up in a
mapping first and then among public attributes, and an index in a mapping first and then in a
sequence.
-/

namespace Formula

/-- A way to resolve properties and indexes. A miss is the fault `Fault.notFound`; every other
fault means that the resolution itself failed. -/
structure Access where
  property : Value → Value → Except Fault Value
  index : Value → Value → Except Fault Value

namespace Access

/-- The value of a mapping under a key. A failing mapping raises its error, but a missing key and a
value of a kind that cannot be a key are misses. -/
def lookUp (subject key : Value) : Except Fault Value :=
  match subject with
  | .hostMap _ _ (some e) =>
    match e.kind with
    | .key | .type => .error (.missing key)
    | _ => .error (.ofHost e)
  | _ =>
    match subject.entries? with
    | some es =>
      if key.unhashable?.isSome then .error (.missing key)
      else match Value.lookup key es with
        | some v => .ok v
        | none => .error (.missing key)
    | none => .error (.missing key)

def mapping : Access := ⟨lookUp, lookUp⟩

instance : Inhabited Access := ⟨mapping⟩

def numberAttribute? (n : Number) (name : String) : Option Value :=
  match n, name with
  | .int m, "real" | .int m, "numerator" => some (.num (.int m))
  | .int _, "imag" => some (.num (.int 0))
  | .int _, "denominator" => some (.num (.int 1))
  | .float x, "real" => some (.num (.float x))
  | .float _, "imag" => some (.num (.float (.zero false)))
  | .decimal d, "real" => some (.num (.decimal d))
  | .decimal _, "imag" => some (.num (.decimal (.ofInt 0)))
  | _, _ => none

def mappingMethods : List String :=
  ["clear", "copy", "fromkeys", "get", "items", "keys", "pop", "popitem", "setdefault", "update",
   "values"]

/-- The attribute of a value; methods of its type are none. A method of mappings comes before what
the host adds under the same name. -/
def attribute? (subject : Value) (name : String) : Option (Attribute Value) :=
  match subject with
  | .bool b => (numberAttribute? (Value.ofBool b) name).map .value
  | .num n => (numberAttribute? n name).map .value
  | .object attributes => attributes.lookup name
  | .hostMap _ attributes _ =>
    if mappingMethods.contains name then some .method else attributes.lookup name
  | _ => none

/-- The value of a public attribute. A method is a miss, and so is an attribute whose reading says
that there is none. -/
def readAttribute (subject name : Value) : Except Fault Value :=
  match name with
  | .str s =>
    if s.startsWith "_" then .error (.missing name)
    else match attribute? subject s with
      | some (.value v) => .ok v
      | some (.fails e) =>
        match e.kind with
        | .missingAttribute => .error (.missing name)
        | _ => .error (.ofHost e)
      | _ => .error (.missing name)
  | _ => .error (.missing name)

/-- The items of a sequence; those of a text are its characters. -/
def items? : Value → Option (List Value)
  | .list xs => some xs
  | .tuple xs => some xs
  | .str s => some (s.toList.map fun c => .str (String.singleton c))
  | _ => none

def itemAt (subject index : Value) : Except Fault Value :=
  match items? subject with
  | none => .error (.missing index)
  | some xs =>
    match index with
    | .num (.int i) =>
      if 0 ≤ i then
        match xs[i.toNat]? with
        | some v => .ok v
        | none => .error (.outOfRange i)
      else .error (.outOfRange i)
    | index => .error (.indexType index.typeName)

def structural : Access := ⟨readAttribute, itemAt⟩

/-- The first result that is not a miss; if all are, the name is missing. -/
def firstHit (name : Value) : List (Except Fault Value) → Except Fault Value
  | [] => .error (.missing name)
  | .error (.notFound _) :: rest => firstHit name rest
  | r :: _ => r

/-- Tries each access in order until one does not miss. -/
def chained (accesses : List Access) : Access where
  property subject name := firstHit name (accesses.map (·.property subject name))
  index subject i := firstHit i (accesses.map (·.index subject i))

/-- Mappings first, then attributes and positions. -/
def default : Access := chained [mapping, structural]

theorem firstHit_notFound (name n : Value) (rest : List (Except Fault Value)) :
    firstHit name (.error (.notFound n) :: rest) = firstHit name rest := rfl

end Access

end Formula
