import Declutter.Json.Double

namespace Declutter

/-- A JSON value; the members of an object keep the order in which their keys first occur. -/
inductive Json
  | null
  | bool (b : Bool)
  | int (n : Int)
  | double (x : Json.Double)
  | text (t : Text)
  | array (items : List Json)
  | object (members : List (Text × Json))
deriving Repr, Inhabited

namespace Json

mutual

def decEq : (a b : Json) → Decidable (a = b)
  | .null, .null => isTrue rfl
  | .bool a, .bool b => decidable_of_iff (a = b) (by simp)
  | .int a, .int b => decidable_of_iff (a = b) (by simp)
  | .double a, .double b => decidable_of_iff (a = b) (by simp)
  | .text a, .text b => decidable_of_iff (a = b) (by simp)
  | .array a, .array b => @decidable_of_iff _ (a = b) (by simp) (decEqItems a b)
  | .object a, .object b => @decidable_of_iff _ (a = b) (by simp) (decEqMembers a b)
  | .null, .bool _ | .null, .int _ | .null, .double _ | .null, .text _ | .null, .array _
  | .null, .object _ | .bool _, .null | .bool _, .int _ | .bool _, .double _ | .bool _, .text _
  | .bool _, .array _ | .bool _, .object _ | .int _, .null | .int _, .bool _ | .int _, .double _
  | .int _, .text _ | .int _, .array _ | .int _, .object _ | .double _, .null | .double _, .bool _
  | .double _, .int _ | .double _, .text _ | .double _, .array _ | .double _, .object _
  | .text _, .null | .text _, .bool _ | .text _, .int _ | .text _, .double _ | .text _, .array _
  | .text _, .object _ | .array _, .null | .array _, .bool _ | .array _, .int _
  | .array _, .double _ | .array _, .text _ | .array _, .object _ | .object _, .null
  | .object _, .bool _ | .object _, .int _ | .object _, .double _ | .object _, .text _
  | .object _, .array _ => isFalse (by simp)

def decEqItems : (a b : List Json) → Decidable (a = b)
  | [], [] => isTrue rfl
  | [], _ :: _ => isFalse (by simp)
  | _ :: _, [] => isFalse (by simp)
  | a :: s, b :: t =>
    match decEq a b, decEqItems s t with
    | isTrue h, isTrue k => isTrue (by rw [h, k])
    | isFalse h, _ => isFalse (by simp [h])
    | _, isFalse k => isFalse (by simp [k])

def decEqMembers : (a b : List (Text × Json)) → Decidable (a = b)
  | [], [] => isTrue rfl
  | [], _ :: _ => isFalse (by simp)
  | _ :: _, [] => isFalse (by simp)
  | (k, a) :: s, (l, b) :: t =>
    match (inferInstance : Decidable (k = l)), decEq a b, decEqMembers s t with
    | isTrue g, isTrue h, isTrue i => isTrue (by rw [g, h, i])
    | isFalse g, _, _ => isFalse (by simp [g])
    | _, isFalse h, _ => isFalse (by simp [h])
    | _, _, isFalse i => isFalse (by simp [i])

end

instance : DecidableEq Json := decEq

/-- Gives a key a new value at its first place, or adds it at the end. -/
def put (key : Text) (value : Json) : List (Text × Json) → List (Text × Json)
  | [] => [(key, value)]
  | (k, v) :: rest => if k = key then (k, value) :: rest else (k, v) :: put key value rest

/-- The members with each key once: first position, last value. -/
def ofMembers (members : List (Text × Json)) : Json :=
  .object (members.foldl (fun done m => put m.1 m.2 done) [])

def members? : Json → Option (List (Text × Json))
  | .object members => some members
  | _ => none

def items? : Json → Option (List Json)
  | .array items => some items
  | _ => none

def text? : Json → Option Text
  | .text t => some t
  | _ => none

/-- The value of a member of an object. -/
def member? (key : Text) : Json → Option Json
  | .object members => members.lookup key
  | _ => none

end Json

end Declutter
