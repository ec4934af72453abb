import FlowObs.JsonWriter

/-!
# Documents

What a sequence of calls of the writer is put together from. An `Element` and a `Member` carry the calls that write
them, the value that these say, that they are properly nested and that no object in them has two members of one name;
objects and arrays are put together from them. A sequence of calls that is the one of an element is therefore written
as a JSON text of its value (`Element.text`).
-/

namespace FlowObs.Json

/-- No object of a value has two members of one name. -/
inductive Distinct : Value → Prop
  | null : Distinct .null
  | bool (b : Bool) : Distinct (.bool b)
  | num (n : Int) : Distinct (.num n)
  | str (s : Str) : Distinct (.str s)
  | arr {vs : List Value} (h : ∀ v ∈ vs, Distinct v) : Distinct (.arr vs)
  | obj {ms : List (Str × Value)} (hnames : (ms.map Prod.fst).Nodup) (h : ∀ m ∈ ms, Distinct m.2) : Distinct (.obj ms)

theorem Scalar.distinct (s : Scalar) : Distinct s.tree := by
  cases s with
  | string value => exact .str value
  | uint value => exact .num _
  | int value => exact .num _
  | bool value => exact .bool value
  | null => exact .null
  | ratio numerator denominator scale =>
    rw [Scalar.tree]
    split
    · exact .null
    · exact .str _

/-- A value and the calls that write it. -/
structure Element where
  value : Value
  calls : List Call
  nested : Nested (.element value) calls
  distinct : Distinct value

/-- A member of an object and the calls that write it. -/
structure Member where
  name : Str
  value : Value
  calls : List Call
  nested : Nested (.member (name, value)) calls
  distinct : Distinct value

namespace Member

/-- A member as the object holds it. -/
def entry (m : Member) : Str × Value := (m.name, m.value)

/-- `Writer::field`. -/
def field (name : Str) (s : Scalar) : Member := ⟨name, s.tree, [.field name s], .field name s, s.distinct⟩

/-- A key with an element behind it. -/
def of (name : Str) (e : Element) : Member := ⟨name, e.value, .key name :: e.calls, .member name e.nested, e.distinct⟩

@[simp] theorem field_name (name : Str) (s : Scalar) : (field name s).name = name := rfl
@[simp] theorem field_calls (name : Str) (s : Scalar) : (field name s).calls = [.field name s] := rfl
@[simp] theorem of_name (name : Str) (e : Element) : (of name e).name = name := rfl
@[simp] theorem of_calls (name : Str) (e : Element) : (of name e).calls = .key name :: e.calls := rfl

/-- Members that are written under a condition. -/
def when (b : Bool) (ms : List Member) : List Member := if b then ms else []

theorem when_sublist (b : Bool) (ms : List Member) : (when b ms).Sublist ms := by
  cases b
  · exact List.nil_sublist ms
  · exact .refl ms

@[simp] theorem flatMap_calls_when (b : Bool) (ms : List Member) :
    (when b ms).flatMap calls = if b then ms.flatMap calls else [] := by
  cases b <;> rfl

/-- Groups of members have different names when they have with all of them there. -/
theorem nodup_groups {l k : List (List Member)} (h : List.Forall₂ List.Sublist l k)
    (hnames : (k.flatten.map name).Nodup) :
    (l.flatten.map name).Nodup := by
  have hsub : l.flatten.Sublist k.flatten := by
    clear hnames
    induction h with
    | nil => exact .refl _
    | cons hm _ ih => exact hm.append ih
  exact hnames.sublist (hsub.map name)

end Member

/-- Elements one after the other. -/
theorem nested_elements : ∀ {es : List Element}, es ≠ [] →
    Nested (.elements (es.map Element.value)) (es.flatMap Element.calls)
  | [e], _ => by
    rw [List.flatMap_singleton]
    exact .lastElement e.nested
  | e :: e' :: es, _ => by
    rw [List.flatMap_cons]
    exact .elements e.nested (nested_elements (List.cons_ne_nil e' es))

/-- Members one after the other. -/
theorem nested_members : ∀ {ms : List Member}, ms ≠ [] →
    Nested (.members (ms.map Member.entry)) (ms.flatMap Member.calls)
  | [m], _ => by
    rw [List.flatMap_singleton]
    exact .lastMember m.nested
  | m :: m' :: ms, _ => by
    rw [List.flatMap_cons]
    exact .members m.nested (nested_members (List.cons_ne_nil m' ms))

namespace Element

/-- A single call. -/
def scalar (s : Scalar) : Element := ⟨s.tree, [.value s], .scalar s, s.distinct⟩

/-- Elements between `begin_array` and `end_array`. -/
def array (es : List Element) : Element where
  value := .arr (es.map Element.value)
  calls := .beginArray :: es.flatMap Element.calls ++ [.endArray]
  nested := by
    cases es with
    | nil => exact .emptyArray
    | cons e es => exact .array (nested_elements (List.cons_ne_nil e es))
  distinct := .arr fun v hv => by
    obtain ⟨e, -, rfl⟩ := List.mem_map.1 hv
    exact e.distinct

/-- Members of different names between `begin_object` and `end_object`. -/
def object (ms : List Member) (hnames : (ms.map Member.name).Nodup) : Element where
  value := .obj (ms.map Member.entry)
  calls := .beginObject :: ms.flatMap Member.calls ++ [.endObject]
  nested := by
    cases ms with
    | nil => exact .emptyObject
    | cons m ms => exact .object (nested_members (List.cons_ne_nil m ms))
  distinct := by
    refine .obj ?_ fun entry hentry => ?_
    · rw [List.map_map]
      exact hnames
    · obtain ⟨m, -, rfl⟩ := List.mem_map.1 hentry
      exact m.distinct

@[simp] theorem array_calls (es : List Element) :
    (array es).calls = .beginArray :: es.flatMap Element.calls ++ [.endArray] := rfl
@[simp] theorem flatMap_calls_scalar {α : Type} (f : α → Scalar) (l : List α) :
    (l.map fun a => scalar (f a)).flatMap calls = l.map fun a => .value (f a) := by
  rw [List.flatMap_map, List.map_eq_flatMap]
  rfl
@[simp] theorem object_calls (ms : List Member) (hnames : (ms.map Member.name).Nodup) :
    (object ms hnames).calls = .beginObject :: ms.flatMap Member.calls ++ [.endObject] := rfl

/-- **What is written for an element is a JSON text of its value and of no other**, with a line feed behind it or not.
-/
theorem text (e : Element) (pretty : Bool) : Text (written pretty e.calls) e.value ∧
    Text (written pretty e.calls ++ [10]) e.value ∧ ∀ v, Text (written pretty e.calls ++ [10]) v → v = e.value := by
  have htext := text_written e.nested pretty
  have hline : Text (written pretty e.calls ++ [10]) e.value :=
    Spells.space htext (fun c hc => by rw [List.mem_singleton.1 hc]; rfl) (by simp)
  exact ⟨htext, hline, fun v hv => Text.unique hv hline⟩

end Element

end FlowObs.Json
