import Provision.Decimal.Shortest

/-!
# Values without a fixed shape

Recipe options, command output and outcome details are data whose shape nobody
declares in advance. A `Value` keeps such data as it was written: whole
numbers stay apart from floating ones, and the entries of a dictionary stay in
the order in which their keys first appeared.

`Entries.put` is the only way a dictionary grows. It writes over the value of
a known key and leaves that key where it is, so `Entries.get?_put` and
`Entries.keys_put` say all there is to know about it.
-/

namespace Provision

inductive Value where
  | null
  | bool (b : Bool)
  | int (n : Int)
  | float (x : Float)
  | str (s : String)
  | list (items : List Value)
  | dict (entries : List (String × Value))
  deriving Inhabited

abbrev Entries := List (String × Value)

namespace Entries

def get? (key : String) : Entries → Option Value
  | [] => none
  | (k, v) :: rest => if k = key then some v else get? key rest

/-- Writes one entry. A known key keeps its place. -/
def put (key : String) (value : Value) : Entries → Entries
  | [] => [(key, value)]
  | (k, v) :: rest => if k = key then (k, value) :: rest else (k, v) :: put key value rest

def merge (old new : Entries) : Entries :=
  new.foldl (fun es e => put e.1 e.2 es) old

/-- Entries as a reader of text meets them: a repeated key keeps its first
place and its last value. -/
def ofPairs (pairs : List (String × Value)) : Entries :=
  merge [] pairs

def keys (es : Entries) : List String :=
  es.map Prod.fst

def getD (key : String) (es : Entries) : Value :=
  (get? key es).getD .null

theorem get?_put_self (key : String) (value : Value) (es : Entries) :
    get? key (put key value es) = some value := by
  induction es with
  | nil => simp [put, get?]
  | cons e rest ih =>
    obtain ⟨k, v⟩ := e
    by_cases h : k = key
    · simp [put, get?, h]
    · simp [put, get?, h, ih]

theorem get?_put_of_ne {key other : String} (h : other ≠ key) (value : Value) (es : Entries) :
    get? other (put key value es) = get? other es := by
  induction es with
  | nil => simp [put, get?, Ne.symm h]
  | cons e rest ih =>
    obtain ⟨k, v⟩ := e
    by_cases hk : k = key
    · subst hk; simp [put, get?, Ne.symm h]
    · by_cases ho : k = other
      · simp [put, get?, ho, h]
      · simp [put, get?, hk, ho, ih]

theorem get?_put (key other : String) (value : Value) (es : Entries) :
    get? other (put key value es) = if other = key then some value else get? other es := by
  by_cases h : other = key
  · subst h; simp [get?_put_self]
  · simp [h, get?_put_of_ne h]

theorem keys_put (key : String) (value : Value) (es : Entries) :
    keys (put key value es) = if key ∈ keys es then keys es else keys es ++ [key] := by
  induction es with
  | nil => simp [put, keys]
  | cons e rest ih =>
    obtain ⟨k, v⟩ := e
    simp only [keys] at ih
    by_cases h : k = key
    · simp [put, keys, h]
    · by_cases hr : key ∈ rest.map Prod.fst
      · simp [put, keys, h, ih, hr]
      · simp [put, keys, h, ih, hr, Ne.symm h]

end Entries

namespace Value

/-- Empty things, zero, false and null do not count as given. -/
def truthy : Value → Bool
  | .null => false
  | .bool b => b
  | .int n => n != 0
  | .float x => x != 0.0
  | .str s => s != ""
  | .list items => !items.isEmpty
  | .dict entries => !entries.isEmpty

def kindName : Value → String
  | .null => "NoneType"
  | .bool _ => "bool"
  | .int _ => "int"
  | .float _ => "float"
  | .str _ => "str"
  | .list _ => "list"
  | .dict _ => "dict"

def asString? : Value → Option String
  | .str s => some s
  | _ => none

def asList? : Value → Option (List Value)
  | .list items => some items
  | _ => none

def asEntries? : Value → Option Entries
  | .dict entries => some entries
  | _ => none

def ofStrings (items : List String) : Value :=
  .list (items.map .str)

def ofOption (s : Option String) : Value :=
  match s with
  | none => .null
  | some s => .str s

def floatIsInt (x : Float) (n : Int) : Bool :=
  match Decimal.parts x with
  | .finite negative m q _ =>
    let r := Decimal.Ratio.ofBinary m q
    (m = 0 || (n < 0) = negative) && r.num = n.natAbs * r.den
  | _ => false

def fitsWord (n : Int) : Bool := -0x8000000000000000 ≤ n && n < 0x8000000000000000

mutual

/-- Whether two values are the same in a comparison: a number is compared by
its amount whatever its kind, a dictionary without regard to order. -/
def same : Value → Value → Bool
  | .null, .null => true
  | .str a, .str b => a = b
  | .float a, .float b => a == b
  | .float a, .int b => floatIsInt a b
  | .float a, .bool b => floatIsInt a (if b then 1 else 0)
  | .int a, .float b => floatIsInt b a
  | .bool a, .float b => floatIsInt b (if a then 1 else 0)
  | .int a, .int b => a = b
  | .int a, .bool b => a = (if b then 1 else 0)
  | .bool a, .int b => (if a then 1 else 0) = b
  | .bool a, .bool b => a = b
  | .list a, .list b => sameAll a b
  | .dict a, .dict b => a.length = b.length && sameUnder a b
  | _, _ => false

def sameAll : List Value → List Value → Bool
  | [], [] => true
  | a :: as, b :: bs => same a b && sameAll as bs
  | _, _ => false

def sameUnder : List (String × Value) → Entries → Bool
  | [], _ => true
  | (k, v) :: rest, b =>
    (match Entries.get? k b with
    | none => false
    | some w => same v w) && sameUnder rest b

end

end Value

end Provision
