import Formula.Function.Arithmetic
import Formula.Function.Collection
import Formula.Function.Comparison
import Formula.Function.Logic
import Formula.Function.Structure

namespace Formula

/-- The built-in types, in the order of their registration. -/
inductive Builtin
  | add
  | subtract
  | multiply
  | divide
  | modulo
  | power
  | min
  | max
  | sum
  | average
  | equal
  | notEqual
  | less
  | lessOrEqual
  | greater
  | greaterOrEqual
  | and
  | or
  | not
  | choose
  | exists_
  | concat
  | length
  | toLower
  | toUpper
  | trim
  | replace
  | startsWith
  | endsWith
  | contains
  | count
  | array
  | first
  | last
  | accessor
  | element
  deriving DecidableEq, Repr

namespace Builtin

def all : List Builtin :=
  [add, subtract, multiply, divide, modulo, power, min, max, sum, average,
   equal, notEqual, less, lessOrEqual, greater, greaterOrEqual,
   and, or, not, choose, exists_,
   concat, length, toLower, toUpper, trim, replace, startsWith, endsWith, contains,
   count, array, first, last, accessor, element]

/-- The name of a built-in: a symbol is written between its operands, a word as a call. -/
def name : Builtin → String
  | add => "+"
  | subtract => "-"
  | multiply => "*"
  | divide => "/"
  | modulo => "%"
  | power => "^"
  | min => "min"
  | max => "max"
  | sum => "sum"
  | average => "average"
  | equal => "=="
  | notEqual => "!="
  | less => "<"
  | lessOrEqual => "<="
  | greater => ">"
  | greaterOrEqual => ">="
  | and => "&&"
  | or => "||"
  | not => "!"
  | choose => "if"
  | exists_ => "exists"
  | concat => "concat"
  | length => "length"
  | toLower => "toLower"
  | toUpper => "toUpper"
  | trim => "trim"
  | replace => "replace"
  | startsWith => "startsWith"
  | endsWith => "endsWith"
  | contains => "contains"
  | count => "count"
  | array => "array"
  | first => "first"
  | last => "last"
  | accessor => "accessor"
  | element => "element"

def evaluate : Builtin → Node → Value → Traced (Except Fault Outcome)
  | add => strictPure Arithmetic.add
  | subtract => strictPure Arithmetic.subtract
  | multiply => strictPure Arithmetic.multiply
  | divide => strictPure Arithmetic.divide
  | modulo => strictPure Arithmetic.modulo
  | power => strictPure Arithmetic.power
  | min => strictPure Arithmetic.min
  | max => strictPure Arithmetic.max
  | sum => strictPure Arithmetic.sum
  | average => strictPure Arithmetic.average
  | equal => strictPure Comparison.equal
  | notEqual => strictPure Comparison.notEqual
  | less => strictPure (Comparison.ordered "<" (· == .lt))
  | lessOrEqual => strictPure (Comparison.ordered "<=" (· != .gt))
  | greater => strictPure (Comparison.ordered ">" (· == .gt))
  | greaterOrEqual => strictPure (Comparison.ordered ">=" (· != .lt))
  | and => Logic.and
  | or => Logic.or
  | not => strictPure Logic.not
  | choose => Logic.choose
  | exists_ => Logic.exists_
  | concat => strictPure Textual.concat
  | length => strictPure Textual.length
  | toLower => strictPure Textual.toLower
  | toUpper => strictPure Textual.toUpper
  | trim => strictPure Textual.trim
  | replace => strictPure Textual.replace
  | startsWith => strictPure Textual.startsWith
  | endsWith => strictPure Textual.endsWith
  | contains => strictPure Collection.contains
  | count => strictPure Collection.count
  | array => strictPure Collection.array
  | first => strictPure Collection.first
  | last => strictPure Collection.last
  | accessor => Structure.accessor .default
  | element => Structure.element .default

def returns : Builtin → ReturnType
  | add | subtract | multiply | divide | modulo | power | min | max | sum | average => .number
  | equal | notEqual | less | lessOrEqual | greater | greaterOrEqual => .boolean
  | and | or | not | exists_ => .boolean
  | choose => .object
  | concat | toLower | toUpper | trim | replace => .string
  | startsWith | endsWith | contains => .boolean
  | length | count => .number
  | array | first | last | accessor | element => .object

/-- Between two numbers of children, each a number. -/
def numericCheck (minimum : Nat) : Check := .all [.arity minimum none, .types [.number]]

/-- A number of children, each a text. -/
def textualCheck (count : Nat) : Check := .all [.arity count (some count), .types [.string]]

/-- Two children, each a number or a text. -/
def orderedCheck : Check := .all [.arity 2 (some 2), .types [.number, .string]]

def check : Builtin → Check
  | add | multiply | divide | modulo | power => numericCheck 2
  | subtract | min | max | sum | average => numericCheck 1
  | equal | notEqual => .arity 2 (some 2)
  | less | lessOrEqual | greater | greaterOrEqual => orderedCheck
  | and | or => .arity 2 none
  | not | exists_ => .arity 1 (some 1)
  | choose => .arity 3 (some 3)
  | concat => .arity 1 none
  | length | toLower | toUpper | trim => textualCheck 1
  | replace => textualCheck 3
  | startsWith | endsWith => textualCheck 2
  | contains => .arity 2 (some 2)
  | count | first | last => .arity 1 (some 1)
  | array => .arity 0 none
  | accessor => Structure.checkAccessor
  | element => .arity 2 (some 2)

def category : Builtin → Category
  | add | subtract | multiply | divide | modulo | power | min | max | sum | average => .math
  | equal | notEqual | less | lessOrEqual | greater | greaterOrEqual => .comparison
  | and | or | not | choose | exists_ => .logic
  | concat | length | toLower | toUpper | trim | replace | startsWith | endsWith | contains =>
    .string
  | count | array | first | last => .collection
  | accessor | element => .structural

def description : Builtin → String
  | add => "Adds numbers"
  | subtract => "Subtracts numbers, or negates a single number"
  | multiply => "Multiplies numbers"
  | divide => "Divides numbers; division by zero is an error"
  | modulo => "Remainder of division; modulo by zero is an error"
  | power => "Raises a number to a power"
  | min => "Smallest of the numbers, or of a single array"
  | max => "Largest of the numbers, or of a single array"
  | sum => "Sum of the numbers, or of a single array"
  | average => "Mean of the numbers, or of a single array"
  | equal => "True if both values are equal"
  | notEqual => "True if the values differ"
  | less => "True if the first value is less than the second"
  | lessOrEqual => "True if the first value is less than or equal to the second"
  | greater => "True if the first value is greater than the second"
  | greaterOrEqual => "True if the first value is greater than or equal to the second"
  | and => "True if every clause is true; stops at the first false clause"
  | or => "True if any clause is true; stops at the first true clause"
  | not => "Negates a clause"
  | choose => "Returns the second argument if the first is true, else the third"
  | exists_ => "True if the value resolves and is not null"
  | concat => "Concatenates all arguments as strings; null is empty"
  | length => "Length of a string; null has length 0"
  | toLower => "Converts a string to lowercase"
  | toUpper => "Converts a string to uppercase"
  | trim => "Removes whitespace from both ends of a string"
  | replace => "Replaces every occurrence of the second argument with the third"
  | startsWith => "Tests if a string starts with a prefix"
  | endsWith => "Tests if a string ends with a suffix"
  | contains => "Tests if a string, array or mapping contains a value"
  | count => "Number of items in an array, mapping or string"
  | array => "Creates an array from its arguments"
  | first => "First item of an array, or null if empty"
  | last => "Last item of an array, or null if empty"
  | accessor => "Looks up a property on the state, or on the second argument"
  | element => "Looks up an index of an array or a key of a mapping"

def examples : Builtin → List String
  | add => ["price + tax"]
  | subtract => ["total - discount", "-balance"]
  | multiply => ["quantity * unitPrice"]
  | divide => ["total / count"]
  | modulo => ["index % 2 == 0"]
  | power => ["side ^ 2"]
  | min => ["min(a, b, c)", "min(scores)"]
  | max => ["max(a, b, c)", "max(scores)"]
  | sum => ["sum(subtotal, shipping)", "sum(lineTotals)"]
  | average => ["average(scores) >= 70"]
  | equal => ["status == 'active'"]
  | notEqual => ["status != 'closed'"]
  | less => ["age < 18"]
  | lessOrEqual => ["age <= 18"]
  | greater => ["age > 18"]
  | greaterOrEqual => ["age >= 18"]
  | and => ["enabled && count > 0"]
  | or => ["isAdmin || isOwner"]
  | not => ["!archived"]
  | choose => ["if(vip, 0, shippingCost)"]
  | exists_ => ["exists(user.email)"]
  | concat => ["concat(firstName, ' ', lastName)"]
  | length => ["length(name) > 0"]
  | toLower => ["toLower(email)"]
  | toUpper => ["toUpper(countryCode) == 'US'"]
  | trim => ["trim(name) != ''"]
  | replace => ["replace(phone, '-', '')"]
  | startsWith => ["startsWith(sku, 'PRD-')"]
  | endsWith => ["endsWith(email, '@example.com')"]
  | contains => ["contains(tags, 'urgent')", "contains(name, 'Inc')"]
  | count => ["count(items) >= 1"]
  | array => ["contains(array('a', 'b'), code)"]
  | first => ["first(items)"]
  | last => ["last(history)"]
  | accessor => ["user.address.city"]
  | element => ["items[0]", "prices['EUR']"]

def evaluator (batch : Nat) (b : Builtin) : Evaluator where
  evaluate := b.evaluate
  returns := b.returns
  check := b.check
  category := b.category
  description := b.description
  examples := b.examples
  identity := some ⟨batch, all.idxOf b⟩

def accessorOn (access : Access) : Evaluator :=
  { evaluator 0 accessor with evaluate := Structure.accessor access, identity := none }

def elementOn (access : Access) : Evaluator :=
  { evaluator 0 element with evaluate := Structure.element access, identity := none }

theorem mem_all (b : Builtin) : b ∈ all := by
  cases b <;> decide

end Builtin

end Formula
