/-!
# JSON values

* `Json` : a JSON value; a number without fraction and exponent is an integer, any other number is
  kept as it was written, and an object keeps its members in order;
* `Json.member? k v` : the member of an object under a key, the last one where a key repeats;
* `Json.record? names v` : the fields of a record, given as an object under their names or as an array
  in their order; `Json.namedRecord?` takes an object only.
-/

namespace GoRebuild

inductive Json where
  | null
  | bool (b : Bool)
  | int (n : Int)
  /-- A number with a fraction or an exponent, as written. -/
  | decimal (text : String)
  | str (s : String)
  | arr (items : List Json)
  | obj (members : List (String × Json))
  deriving Inhabited

namespace Json

/-- The value of the last member with the key `k`. -/
def lookup (k : String) : List (String × Json) → Option Json
  | [] => none
  | (k', v) :: rest =>
    match lookup k rest with
    | some w => some w
    | none => if k' = k then some v else none

/-- The member of an object under a key. -/
def member? (k : String) : Json → Option Json
  | obj ms => lookup k ms
  | _ => none

/-- The fields of a record, by name from an object, by place from an array of the right length. A
field that an object lacks is `none`. -/
def record? (names : List String) : Json → Option (List (Option Json))
  | obj ms => some (names.map fun k => lookup k ms)
  | arr vs => if vs.length = names.length then some (vs.map some) else none
  | _ => none

/-- The fields of a record that only an object can give. -/
def namedRecord? (names : List String) : Json → Option (List (Option Json))
  | obj ms => some (names.map fun k => lookup k ms)
  | _ => none

def text? : Json → Option String
  | str s => some s
  | _ => none

def bool? : Json → Option Bool
  | bool b => some b
  | _ => none

def array? : Json → Option (List Json)
  | arr vs => some vs
  | _ => none

/-- An integer from 0 up to `2 ^ bits - 1`. -/
def word? (bits : Nat) (v : Json) : Option Nat :=
  match v with
  | int (.ofNat n) => if n < Nat.pow 2 bits then some n else none
  | _ => none

mutual
/-- How deep arrays and objects are nested. -/
def depth : Json → Nat
  | arr vs => depthList vs + 1
  | obj ms => depthMembers ms + 1
  | _ => 0
/-- The depth of the deepest element. -/
def depthList : List Json → Nat
  | [] => 0
  | v :: vs => max (depth v) (depthList vs)
/-- The depth of the deepest member. -/
def depthMembers : List (String × Json) → Nat
  | [] => 0
  | (_, v) :: ms => max (depth v) (depthMembers ms)
end

end Json

end GoRebuild
