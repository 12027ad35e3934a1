import AgenticRag.Lib.Ordered
import AgenticRag.Lib.PyText

/-!
# Python Values

The values a tool result carries in its cells: what a JSON decoder or a
database driver hands to Python. Dictionaries keep the order their keys were
set in. A float carries its value and the text `repr` gives for it, and an
object of any other class (a date, a decimal) carries its `str` and its
`repr`.

`str` and `repr` are the built-in conversions, and `dumps` is `json.dumps`
with `ensure_ascii=False` and `default=str`: characters outside ASCII are kept
and an object the encoder does not know is written as the string `str` gives.

## Main definitions

* `Val`: The values.
* `Val.toInt`: The built-in `int`.

## Theorems

* `exists_of_bind_ok`, `exists_of_map_ok`, `forall₂_of_mapM_ok`, `exists_mapM_ok_iff`,
  `exists_of_mem_mapM`, `filterM_eq_ok`, `eq_dict_of_asMapping`:
  Taking a computation apart.
-/

namespace AgenticRag

namespace Py

/-- A Python value as a tool result carries it. -/
inductive Val where
  | none
  | bool (b : Bool)
  | int (i : Int)
  | float (q : ℚ) (text : String)
  | str (s : String)
  | list (xs : List Val)
  | dict (kvs : List (String × Val))
  | object (text reprText : String)

/-- A dictionary with text keys, in the order its keys were set. -/
abbrev Dict := List (String × Val)

/-- The truth value of a value. -/
def Val.truthy : Val → Bool
  | .none => false
  | .bool b => b
  | .int i => i != 0
  | .float q _ => q != 0
  | .str s => s != ""
  | .list xs => !xs.isEmpty
  | .dict kvs => !kvs.isEmpty
  | .object _ _ => true

/-- The lower-case hexadecimal digits of a number, padded to a width. -/
def hexPadded (width n : Nat) : List Char :=
  let ds := Nat.toDigits 16 n
  List.replicate (width - ds.length) '0' ++ ds

/-- How `repr` writes one character of a string quoted by `quote`. -/
def reprChar (u : Unicode) (quote c : Char) : List Char :=
  if c = quote ∨ c = '\\' then ['\\', c]
  else if c = '\t' then ['\\', 't']
  else if c = '\n' then ['\\', 'n']
  else if c = '\r' then ['\\', 'r']
  else if u.isPrintable c then [c]
  else if c.toNat < 0x100 then ['\\', 'x'] ++ hexPadded 2 c.toNat
  else if c.toNat < 0x10000 then ['\\', 'u'] ++ hexPadded 4 c.toNat
  else ['\\', 'U'] ++ hexPadded 8 c.toNat

/-- The `repr` of a string: single quotes, unless it holds single quotes and
    no double ones. -/
def reprStr (u : Unicode) (s : String) : String :=
  let quote := if '\'' ∈ s.toList ∧ '"' ∉ s.toList then '"' else '\''
  String.ofList ([quote] ++ s.toList.flatMap (reprChar u quote) ++ [quote])

mutual

/-- The built-in `repr`. -/
def Val.repr (u : Unicode) : Val → String
  | .none => "None"
  | .bool b => if b then "True" else "False"
  | .int i => toString i
  | .float _ text => text
  | .str s => reprStr u s
  | .list xs => "[" ++ join ", " (Val.reprList u xs) ++ "]"
  | .dict kvs => "\x7b" ++ join ", " (Val.reprDict u kvs) ++ "\x7d"
  | .object _ reprText => reprText

/-- The items as `repr` writes them. -/
def Val.reprList (u : Unicode) : List Val → List String
  | [] => []
  | v :: vs => Val.repr u v :: Val.reprList u vs

/-- The entries as `repr` writes them. -/
def Val.reprDict (u : Unicode) : List (String × Val) → List String
  | [] => []
  | (k, v) :: rest => (reprStr u k ++ ": " ++ Val.repr u v) :: Val.reprDict u rest

end

/-- The built-in `str`. It differs from `repr` on strings and objects. -/
def Val.toStr (u : Unicode) : Val → String
  | .str s => s
  | .object text _ => text
  | v => Val.repr u v

/-- How the JSON encoder writes one character of a string. -/
def jsonChar (c : Char) : List Char :=
  if c = '"' ∨ c = '\\' then ['\\', c]
  else if c = '\n' then ['\\', 'n']
  else if c = '\r' then ['\\', 'r']
  else if c = '\t' then ['\\', 't']
  else if c.toNat = 0xC then ['\\', 'f']
  else if c.toNat = 0x8 then ['\\', 'b']
  else if c.toNat < 0x20 then ['\\', 'u'] ++ hexPadded 4 c.toNat
  else [c]

/-- A string in JSON. -/
def jsonStr (s : String) : String :=
  String.ofList (['"'] ++ s.toList.flatMap jsonChar ++ ['"'])

mutual

/-- The text `json.dumps` gives with `ensure_ascii=False` and
    `default=str`. -/
def Val.dumps : Val → String
  | .none => "null"
  | .bool b => if b then "true" else "false"
  | .int i => toString i
  | .float _ text => text
  | .str s => jsonStr s
  | .list xs => "[" ++ join ", " (Val.dumpsList xs) ++ "]"
  | .dict kvs => "\x7b" ++ join ", " (Val.dumpsDict kvs) ++ "\x7d"
  | .object text _ => jsonStr text

/-- The items in JSON. -/
def Val.dumpsList : List Val → List String
  | [] => []
  | v :: vs => Val.dumps v :: Val.dumpsList vs

/-- The entries in JSON. -/
def Val.dumpsDict : List (String × Val) → List String
  | [] => []
  | (k, v) :: rest => (jsonStr k ++ ": " ++ Val.dumps v) :: Val.dumpsDict rest

end

mutual

/-- Whether a value is JSON: what is no built-in value is not, other than the
    floats that are no numbers. -/
def Val.isJson : Val → Bool
  | .list xs => Val.isJsonList xs
  | .dict kvs => Val.isJsonDict kvs
  | .object text _ => ["nan", "inf", "-inf"].contains text
  | _ => true

/-- All items can be written. -/
def Val.isJsonList : List Val → Bool
  | [] => true
  | v :: vs => Val.isJson v && Val.isJsonList vs

/-- All entries can be written. -/
def Val.isJsonDict : List (String × Val) → Bool
  | [] => true
  | (_, v) :: rest => Val.isJson v && Val.isJsonDict rest

end

/-- The exceptions the built-in operations raise. -/
inductive Exc where
  | indexError
  | keyError
  | zeroDivisionError
  | attributeError
  | typeError
  | valueError
  | runtimeError
  | overflowError
  deriving DecidableEq, Repr

/-- `d.get(key, default)`. -/
def pyGet (d : Dict) (key : String) (default : Val) : Val := (d.lookup key).getD default

/-- `v or w`. -/
def pyOr (v w : Val) : Val := if v.truthy then v else w

/-- A value whose methods as a mapping are called. -/
def asMapping : Val → Except Exc Dict
  | .dict kvs => .ok kvs
  | _ => .error .attributeError

/-- What an iteration over a value goes through. -/
def pyIter : Val → Except Exc (List Val)
  | .list xs => .ok xs
  | .str s => .ok (s.toList.map (fun c => .str (String.ofList [c])))
  | .dict kvs => .ok (kvs.map (fun kv => .str kv.1))
  | _ => .error .typeError

/-- A key and a value. -/
def pairOf (v : Val) : Except Exc (String × Val) := do
  match ← pyIter v with
  | [.str k, w] => return (k, w)
  | _ => .error .valueError

/-- The built-in `dict`. -/
def pyDict : Val → Except Exc Dict
  | .dict kvs => .ok (Ordered.dictOf kvs)
  | .list xs => do return Ordered.dictOf (← xs.mapM pairOf)
  | .str s => if s = "" then .ok [] else .error .valueError
  | _ => .error .typeError

/-- Read the digits of a number, where single underscores may stand between
    two of them. The flag says whether the last character was a digit. -/
def digitsOfText : Bool → List Char → Option (List Char)
  | afterDigit, [] => if afterDigit then some [] else none
  | afterDigit, c :: cs =>
      if isDecimal c then (digitsOfText true cs).map (c :: ·)
      else if c = '_' ∧ afterDigit then digitsOfText false cs
      else none

/-- The digits a number may have when it is read from a text. -/
def maxStrDigits : Nat := 4300

/-- The built-in `int` on a text. -/
def intOfText (s : String) : Except Exc Int :=
  let (sign, cs) : Int × List Char := match (strip s).toList with
    | '-' :: cs => (-1, cs)
    | '+' :: cs => (1, cs)
    | cs => (1, cs)
  match digitsOfText false cs with
  | some ds => if maxStrDigits < ds.length then .error .valueError else .ok (sign * intOfDigits ds)
  | none => .error .valueError

/-- The built-in `int`. A float is cut off towards zero; of the other objects
    the readers hand on, the infinities overflow. -/
def Val.toInt : Val → Except Exc Int
  | .bool b => .ok (if b then 1 else 0)
  | .int i => .ok i
  | .float q _ => .ok (q.num.tdiv q.den)
  | .str s => intOfText s
  | .object "inf" _ => .error .overflowError
  | .object "-inf" _ => .error .overflowError
  | .object "nan" _ => .error .valueError
  | _ => .error .typeError

/-- A computation in two parts that returns had a first part that returned. -/
theorem exists_of_bind_ok {ε α β : Type} {x : Except ε α} {f : α → Except ε β} {b : β}
    (h : (x >>= f) = .ok b) : ∃ a, x = .ok a ∧ f a = .ok b := by
  cases x with
  | error e => cases h
  | ok a => exact ⟨a, rfl, h⟩

theorem exists_of_map_ok {ε α β : Type} {x : Except ε α} {f : α → β} {b : β}
    (h : x.map f = .ok b) : ∃ a, x = .ok a ∧ f a = b := by
  cases x with
  | error e => cases h
  | ok a => exact ⟨a, rfl, Except.ok.inj h⟩

/-- A computation whose value passes a test has returned. -/
theorem exists_of_any {ε α : Type} {x : Except ε α} {p : α → Bool}
    (h : x.toOption.any p = true) : ∃ a, x = .ok a ∧ p a = true := by
  cases x with
  | error e => cases h
  | ok a => exact ⟨a, rfl, h⟩

/-- A computation over a list that returns has returned for each element. -/
theorem forall₂_of_mapM_ok {ε α β : Type} {f : α → Except ε β} {xs : List α} {ys : List β}
    (h : xs.mapM f = .ok ys) : List.Forall₂ (fun x y => f x = .ok y) xs ys := by
  induction xs generalizing ys with
  | nil =>
      cases h
      exact .nil
  | cons x xs ih =>
      rw [List.mapM_cons] at h
      rcases exists_of_bind_ok h with ⟨y, hy, h⟩
      rcases exists_of_bind_ok h with ⟨ys', hys', h⟩
      cases h
      exact .cons hy (ih hys')

/-- A computation over a list returns exactly when it returns for each element. -/
theorem exists_mapM_ok_iff {ε α β : Type} {f : α → Except ε β} {xs : List α} :
    (∃ ys, xs.mapM f = .ok ys) ↔ ∀ x ∈ xs, ∃ y, f x = .ok y := by
  induction xs with
  | nil => exact iff_of_true ⟨[], rfl⟩ (List.forall_mem_nil _)
  | cons x xs ih =>
      rw [List.forall_mem_cons, ← ih, List.mapM_cons]
      constructor
      · rintro ⟨zs, h⟩
        rcases exists_of_bind_ok h with ⟨y, hy, h⟩
        rcases exists_of_bind_ok h with ⟨ys, hys, -⟩
        exact ⟨⟨y, hy⟩, ys, hys⟩
      · rintro ⟨⟨y, hy⟩, ys, hys⟩
        rw [hy, hys]
        exact ⟨y :: ys, rfl⟩

/-- What such a computation returns was returned for an element. -/
theorem exists_of_mem_mapM {ε α β : Type} {f : α → Except ε β} {xs : List α} {ys : List β}
    (h : xs.mapM f = .ok ys) {y : β} (hy : y ∈ ys) : ∃ x ∈ xs, f x = .ok y := by
  have hall := forall₂_of_mapM_ok h
  clear h
  induction hall with
  | nil => cases hy
  | @cons x z xs ys hz hrest ih =>
      rcases List.mem_cons.mp hy with rfl | hy
      · exact ⟨x, List.mem_cons_self, hz⟩
      · rcases ih hy with ⟨x', hx', hy'⟩
        exact ⟨x', List.mem_cons_of_mem x hx', hy'⟩

/-- A reading of a list that succeeds has succeeded for each element. -/
theorem forall₂_of_mapM_some {α β : Type} {f : α → Option β} {xs : List α} {ys : List β}
    (h : xs.mapM f = some ys) : List.Forall₂ (fun x y => f x = some y) xs ys := by
  induction xs generalizing ys with
  | nil =>
      cases h
      exact .nil
  | cons x xs ih =>
      rw [List.mapM_cons] at h
      rcases Option.bind_eq_some_iff.mp h with ⟨y, hy, hrest⟩
      rcases Option.bind_eq_some_iff.mp hrest with ⟨ys', hys', hresult⟩
      cases hresult
      exact .cons hy (ih hys')

theorem filterAuxM_eq_ok {ε α : Type} {f : α → Except ε Bool} {xs acc ys : List α}
    (h : xs.filterAuxM f acc = .ok ys) :
    ys = (xs.filter (fun x => (f x).toOption.getD false)).reverse ++ acc := by
  induction xs generalizing acc with
  | nil =>
      cases h
      rfl
  | cons x xs ih =>
      rcases exists_of_bind_ok h with ⟨kept, hkept, h⟩
      rw [ih h, List.filter_cons, hkept]
      cases kept with
      | false => rfl
      | true => simp [Except.toOption]

/-- A filter that returns has kept what its test returned true for. -/
theorem filterM_eq_ok {ε α : Type} {f : α → Except ε Bool} {xs ys : List α}
    (h : xs.filterM f = .ok ys) : ys = xs.filter (fun x => (f x).toOption.getD false) := by
  rcases exists_of_bind_ok h with ⟨zs, hzs, h⟩
  cases h
  rw [filterAuxM_eq_ok hzs, List.append_nil, List.reverse_reverse]

theorem eq_dict_of_asMapping {v : Val} {d : Dict} (h : asMapping v = .ok d) : v = .dict d := by
  cases v with
  | dict kvs =>
      cases h
      rfl
  | _ => cases h

end Py

end AgenticRag
