import Sift.Proofs.Filter.DocumentId
import Sift.Proofs.Instant.Printer
import Sift.Proofs.Json.Printer
import Sift.Proofs.Number.Whole

/-!
# The text of a filter loses nothing

Two filters with the same compact text are the same filter with its instants on a clock
(`filter_text_determines`), if their scalars are exact: numbers are finite and not negative zero,
and instants have no part shorter than a millisecond.  The text determines the document that it
writes, so all is about documents: an object with one member is a connective, a condition on a field
or an identifier, and what stands under its name tells which, whatever name a field has.

Only instants that no clock shows are lost: a leap second in the middle of a minute has the text of
the second behind it (`filter_text_stray_leap_second`).
-/

namespace Sift

/-- An object with one member is its name and its value. -/
private theorem Json.member_inj {name name' : String} {value value' : Json}
    (h : object [(name, value)] = object [(name', value')]) : name = name' ∧ value = value' :=
  Prod.mk.inj (List.cons.inj (Json.object.inj h)).1

/-! ## Scalars and conditions -/

namespace Scalar

/-- A scalar whose text has all of it: a finite number with its sign, or an instant in whole
    milliseconds. -/
def IsExact : Scalar → Prop
  | .number x => x.isFinite = true ∧ x ≠ .negativeZero
  | .string _ => True
  | .date t => t.nanos % 1000000 = 0

/-- A scalar with its instant on a clock. -/
def onClock : Scalar → Scalar
  | .number x => .number x
  | .string s => .string s
  | .date t => .date t.onClock

/-- A scalar that has no instant, or one that a clock shows. -/
def IsOnClock : Scalar → Prop
  | .number _ => True
  | .string _ => True
  | .date t => t.IsOnClock

/-- A scalar whose instant a clock shows stays as it is. -/
theorem onClock_of_isOnClock {s : Scalar} (h : s.IsOnClock) : s.onClock = s := by
  cases s with
  | number x => rfl
  | string s => rfl
  | date t => rw [onClock, Instant.onClock_of_isOnClock h]

/-- A scalar is written as it is on a clock. -/
private theorem toJson_onClock (s : Scalar) : s.onClock.toJson = s.toJson := by
  cases s with
  | number x => rfl
  | string s => rfl
  | date t => rw [onClock, toJson, toJson, Instant.text, Instant.text, Instant.chars_onClock]

/-- A scalar is written as a number, as a string, or, if it is a date, under its own name. -/
inductive Form : Json → Prop
  | int (n : Int) : Form (.int n)
  | float (x : Number) : Form (.float x)
  | string (s : String) : Form (.string s)
  | date (s : String) : Form (.object [("$date", .string s)])

/-- The only object that a scalar is written as is that of a date. -/
private theorem Form.name_eq {name : String} {value : Json} (h : Form (.object [(name, value)])) :
    name = "$date" := by
  generalize hjson : Json.object [(name, value)] = json at h
  cases h with
  | int n => cases hjson
  | float x => cases hjson
  | string s => cases hjson
  | date s => exact (Json.member_inj hjson).1

/-- An exact scalar is written in one of these forms. -/
private theorem form_toJson {s : Scalar} (hs : s.IsExact) : Form s.toJson := by
  cases s with
  | number x =>
    show Form x.toJson
    rcases Number.toJson_of_isFinite hs.1 with ⟨n, -, hjson⟩ | hjson <;> rw [hjson]
    · exact .int n
    · exact .float x
  | string s => exact .string s
  | date t => exact .date t.text

/-- A finite number is written as no string and as no object. -/
private theorem number_toJson_ne {x : Number} (hx : x.isFinite = true) :
    (∀ s, x.toJson ≠ .string s) ∧ ∀ members, x.toJson ≠ .object members := by
  rcases Number.toJson_of_isFinite hx with ⟨n, -, hjson⟩ | hjson <;> rw [hjson] <;>
    exact ⟨fun _ h => (by cases h), fun _ h => (by cases h)⟩

/-- What is written for an exact scalar determines the scalar on a clock. -/
private theorem onClock_eq_of_toJson {s s' : Scalar} (hs : s.IsExact) (hs' : s'.IsExact)
    (h : s.toJson = s'.toJson) : s.onClock = s'.onClock := by
  cases s with
  | number x =>
    -- numbers, strings and dates are written in different forms
    cases s' with
    | number y => rw [Number.toJson_injective hs.1 hs'.1 hs.2 hs'.2 h]
    | string t => exact absurd h ((number_toJson_ne hs.1).1 _)
    | date t => exact absurd h ((number_toJson_ne hs.1).2 _)
  | string t =>
    cases s' with
    | number y => exact absurd h.symm ((number_toJson_ne hs'.1).1 _)
    | string t' => rw [Json.string.inj h]
    | date t' => cases h
  | date t =>
    cases s' with
    | number y => exact absurd h.symm ((number_toJson_ne hs'.1).2 _)
    | string t' => cases h
    -- the text of an instant determines what a clock shows
    | date t' =>
      have htext := Json.string.inj (Json.member_inj h).2
      rw [onClock, onClock, (Instant.chars_eq_iff hs hs').mp (String.ofList_injective htext)]

end Scalar

/-- Different comparisons have different names. -/
private theorem Comparison.name?_injective {a b : Comparison} (h : a.name? = b.name?) : a = b := by
  revert h
  cases a <;> cases b <;> decide

namespace Condition

/-- The scalar that a condition compares with. -/
def scalars : Condition → List Scalar
  | .compare _ scalar => [scalar]
  | .regex _ => []
  | .exists _ => []

/-- A condition with the instant that it compares with on a clock. -/
def onClock : Condition → Condition
  | .compare comparison scalar => .compare comparison scalar.onClock
  | .regex pattern => .regex pattern
  | .exists value => .exists value

/-- A condition whose instant a clock shows stays as it is. -/
theorem onClock_of_isOnClock {c : Condition} (h : ∀ s ∈ c.scalars, s.IsOnClock) :
    c.onClock = c := by
  cases c with
  | compare comparison scalar =>
    rw [onClock, Scalar.onClock_of_isOnClock (h scalar (List.mem_singleton_self _))]
  | regex pattern => rfl
  | «exists» value => rfl

/-- A condition is written as it is on a clock. -/
private theorem toJson_onClock (c : Condition) : c.onClock.toJson = c.toJson := by
  cases c with
  | compare comparison scalar => simp only [onClock, toJson, Scalar.toJson_onClock]
  | regex pattern => rfl
  | «exists» value => rfl

/-- The name of the operator of a condition; equality has none. -/
def operator? : Condition → Option String
  | .compare comparison _ => comparison.name?
  | .regex _ => some "$regex"
  | .exists _ => some "$exists"

/-- What a condition says of its field, without its operator. -/
def argument : Condition → Json
  | .compare _ scalar => scalar.toJson
  | .regex pattern => .string pattern
  | .exists value => .bool value

/-- A condition with an operator is written under its name. -/
private theorem toJson_of_operator {c : Condition} {name : String} (h : c.operator? = some name) :
    c.toJson = .object [(name, c.argument)] := by
  cases c with
  | compare comparison scalar =>
    have hname : comparison.name? = some name := h
    rw [toJson, hname]
    rfl
  | regex pattern =>
    cases h
    rfl
  | «exists» value =>
    cases h
    rfl

/-- Equality with a scalar is written as the scalar. -/
private theorem exists_equality {c : Condition} (h : c.operator? = none) :
    ∃ scalar, c = .compare .eq scalar := by
  cases c with
  | compare comparison scalar =>
    cases comparison with
    | eq => exact ⟨scalar, rfl⟩
    | gte | gt | lte | lt => cases h
  | regex pattern => cases h
  | «exists» value => cases h

/-- A condition is written under its operator, or is the equality with a scalar that is written as
    the scalar. -/
private theorem form_toJson {c : Condition} (hc : ∀ s ∈ c.scalars, s.IsExact) :
    (∃ name, c.operator? = some name ∧ c.toJson = .object [(name, c.argument)]) ∨
      c.operator? = none ∧ Scalar.Form c.toJson := by
  cases hname : c.operator? with
  | some name => exact .inl ⟨name, rfl, toJson_of_operator hname⟩
  | none =>
    obtain ⟨scalar, rfl⟩ := exists_equality hname
    exact .inr ⟨rfl, Scalar.form_toJson (hc scalar (List.mem_singleton_self _))⟩

/-- No operator has the name under which dates stand, or identifiers. -/
private theorem operator_ne {c : Condition} {name : String} (h : c.operator? = some name) :
    name ≠ "$date" ∧ name ≠ "$oid" := by
  cases c with
  | compare comparison scalar =>
    cases comparison with
    | eq => cases h
    | gte | gt | lte | lt =>
      cases h
      decide
  | regex pattern =>
    cases h
    decide
  | «exists» value =>
    cases h
    decide

/-- The operator and the argument determine a condition on a clock. -/
private theorem onClock_eq_of_operator {c c' : Condition} {name : String}
    (h : c.operator? = some name) (h' : c'.operator? = some name) (hc : ∀ s ∈ c.scalars, s.IsExact)
    (hc' : ∀ s ∈ c'.scalars, s.IsExact) (hargument : c.argument = c'.argument) :
    c.onClock = c'.onClock := by
  -- neither a pattern nor the question for a field has the operator of a comparison
  have hregex : ∀ comparison : Comparison, comparison.name? ≠ some "$regex" := by
    intro comparison
    cases comparison <;> decide
  have hexists : ∀ comparison : Comparison, comparison.name? ≠ some "$exists" := by
    intro comparison
    cases comparison <;> decide
  have hne : some "$regex" ≠ some "$exists" := by decide
  have hname := h.trans h'.symm
  cases c with
  | compare comparison scalar =>
    cases c' with
    | compare comparison' scalar' =>
      have hscalar := Scalar.onClock_eq_of_toJson (hc scalar (List.mem_singleton_self _))
        (hc' scalar' (List.mem_singleton_self _)) hargument
      rw [onClock, onClock, Comparison.name?_injective hname, hscalar]
    | regex pattern => exact absurd hname (hregex comparison)
    | «exists» value => exact absurd hname (hexists comparison)
  | regex pattern =>
    cases c' with
    | compare comparison' scalar' => exact absurd hname.symm (hregex comparison')
    | regex pattern' => rw [Json.string.inj hargument]
    | «exists» value => exact absurd hname hne
  | «exists» value =>
    cases c' with
    | compare comparison' scalar' => exact absurd hname.symm (hexists comparison')
    | regex pattern' => exact absurd hname.symm hne
    | «exists» value' => rw [Json.bool.inj hargument]

/-- Equality is never written as an operator is. -/
private theorem toJson_ne_of_form {c : Condition} {json : Json} (h : Scalar.Form json)
    (hc : c.operator? ≠ none) : json ≠ c.toJson := by
  obtain ⟨name, hname⟩ := Option.ne_none_iff_exists'.mp hc
  rw [toJson_of_operator hname]
  rintro rfl
  exact (operator_ne hname).1 h.name_eq

/-- What is written for an exact condition determines the condition on a clock. -/
private theorem onClock_eq_of_toJson {c c' : Condition} (hc : ∀ s ∈ c.scalars, s.IsExact)
    (hc' : ∀ s ∈ c'.scalars, s.IsExact) (h : c.toJson = c'.toJson) : c.onClock = c'.onClock := by
  rcases form_toJson hc with ⟨name, hname, hjson⟩ | ⟨hname, hform⟩ <;>
    rcases form_toJson hc' with ⟨name', hname', hjson'⟩ | ⟨hname', hform'⟩
  · -- both have an operator, and it is the same one
    rw [hjson, hjson'] at h
    obtain ⟨rfl, hargument⟩ := Json.member_inj h
    exact onClock_eq_of_operator hname hname' hc hc' hargument
  · exact absurd h.symm (toJson_ne_of_form hform' (by rw [hname]; exact Option.some_ne_none _))
  · exact absurd h (toJson_ne_of_form hform (by rw [hname']; exact Option.some_ne_none _))
  · -- both are equalities, which are written as their scalars
    obtain ⟨scalar, rfl⟩ := exists_equality hname
    obtain ⟨scalar', rfl⟩ := exists_equality hname'
    rw [onClock, onClock, Scalar.onClock_eq_of_toJson (hc scalar (List.mem_singleton_self _))
      (hc' scalar' (List.mem_singleton_self _)) h]

/-- No condition is written as the parts of a connective are, and none as an identifier is. -/
private theorem toJson_ne {c : Condition} (hc : ∀ s ∈ c.scalars, s.IsExact) :
    (∀ items, c.toJson ≠ .array items) ∧ ∀ value, c.toJson ≠ .object [("$oid", value)] := by
  rcases form_toJson hc with ⟨name, hname, hjson⟩ | ⟨-, hform⟩
  · rw [hjson]
    refine ⟨fun items h => (by cases h), fun value h => ?_⟩
    exact (operator_ne hname).2 (Json.member_inj h).1
  · refine ⟨fun items h => ?_, fun value h => ?_⟩ <;> rw [h] at hform
    · cases hform
    · exact absurd hform.name_eq (by decide)

end Condition

/-! ## Filters -/

namespace Filter

mutual

/-- The scalars that a filter compares with. -/
def scalars : Filter → List Scalar
  | .and parts => listScalars parts
  | .or parts => listScalars parts
  | .field _ condition => condition.scalars
  | .id _ => []

def listScalars : List Filter → List Scalar
  | [] => []
  | part :: rest => part.scalars ++ listScalars rest

end

mutual

/-- A filter with its instants on a clock. -/
def onClock : Filter → Filter
  | .and parts => .and (listOnClock parts)
  | .or parts => .or (listOnClock parts)
  | .field name condition => .field name condition.onClock
  | .id docId => .id docId

def listOnClock : List Filter → List Filter
  | [] => []
  | part :: rest => part.onClock :: listOnClock rest

end

mutual

/-- A filter whose instants a clock shows stays as it is. -/
theorem onClock_of_isOnClock (f : Filter) (h : ∀ s ∈ f.scalars, s.IsOnClock) : f.onClock = f := by
  cases f with
  | and parts => rw [onClock, listOnClock_of_isOnClock parts h]
  | or parts => rw [onClock, listOnClock_of_isOnClock parts h]
  | field name c => rw [onClock, Condition.onClock_of_isOnClock h]
  | id docId => rw [onClock]

/-- The same for the parts of a connective. -/
private theorem listOnClock_of_isOnClock (fs : List Filter)
    (h : ∀ s ∈ listScalars fs, s.IsOnClock) : listOnClock fs = fs := by
  cases fs with
  | nil => rw [listOnClock]
  | cons f fs =>
    have h' := List.forall_mem_append.mp h
    rw [listOnClock, onClock_of_isOnClock f h'.1, listOnClock_of_isOnClock fs h'.2]

end

mutual

/-- A filter is written as it is on a clock. -/
private theorem toJson_onClock (f : Filter) : f.onClock.toJson = f.toJson := by
  cases f with
  | and parts => rw [onClock, toJson, toJson, listToJson_onClock parts]
  | or parts => rw [onClock, toJson, toJson, listToJson_onClock parts]
  | field name c => rw [onClock, toJson, toJson, Condition.toJson_onClock]
  | id docId => rw [onClock]

/-- The parts of a connective are written as they are on a clock. -/
private theorem listToJson_onClock (fs : List Filter) :
    listToJson (listOnClock fs) = listToJson fs := by
  cases fs with
  | nil => rw [listOnClock]
  | cons f fs => rw [listOnClock, listToJson, listToJson, toJson_onClock f, listToJson_onClock fs]

end

/-- Whatever its name is, a condition on a field is written as nothing else is. -/
private theorem eq_field_of_toJson {name : String} {c : Condition} {f : Filter}
    (hc : ∀ s ∈ c.scalars, s.IsExact) (h : (field name c).toJson = f.toJson) :
    ∃ c', f = field name c' ∧ c.toJson = c'.toJson := by
  obtain ⟨harray, hid⟩ := Condition.toJson_ne hc
  cases f with
  | and parts => exact absurd (Json.member_inj h).2 (harray _)
  | or parts => exact absurd (Json.member_inj h).2 (harray _)
  | field name' c' =>
    obtain ⟨rfl, hjson⟩ := Json.member_inj h
    exact ⟨c', rfl, hjson⟩
  | id docId => exact absurd (Json.member_inj h).2 (hid _)

mutual

/-- What is written for an exact filter determines the filter on a clock. -/
private theorem onClock_eq_of_toJson (f g : Filter) (hf : ∀ s ∈ f.scalars, s.IsExact)
    (hg : ∀ s ∈ g.scalars, s.IsExact) (h : f.toJson = g.toJson) : f.onClock = g.onClock := by
  have hnames : "$and" ≠ "$or" ∧ "$and" ≠ "_id" ∧ "$or" ≠ "_id" := by decide
  -- the induction is on the first filter; what it meets on the other side is of the same kind
  cases f with
  | and parts =>
    cases g with
    | and parts' =>
      have hparts := Json.array.inj (Json.member_inj h).2
      rw [onClock, onClock, listOnClock_eq_of_listToJson parts parts' hf hg hparts]
    | or parts' => exact absurd (Json.member_inj h).1 hnames.1
    | field name c =>
      obtain ⟨c', hfield, -⟩ := eq_field_of_toJson hg h.symm
      cases hfield
    | id docId => exact absurd (Json.member_inj h).1 hnames.2.1
  | or parts =>
    cases g with
    | and parts' => exact absurd (Json.member_inj h).1.symm hnames.1
    | or parts' =>
      have hparts := Json.array.inj (Json.member_inj h).2
      rw [onClock, onClock, listOnClock_eq_of_listToJson parts parts' hf hg hparts]
    | field name c =>
      obtain ⟨c', hfield, -⟩ := eq_field_of_toJson hg h.symm
      cases hfield
    | id docId => exact absurd (Json.member_inj h).1 hnames.2.2
  | field name c =>
    obtain ⟨c', rfl, hjson⟩ := eq_field_of_toJson hf h
    rw [onClock, onClock, Condition.onClock_eq_of_toJson hf hg hjson]
  | id docId =>
    cases g with
    | and parts' => exact absurd (Json.member_inj h).1.symm hnames.2.1
    | or parts' => exact absurd (Json.member_inj h).1.symm hnames.2.2
    | field name c =>
      obtain ⟨c', hfield, -⟩ := eq_field_of_toJson hg h.symm
      cases hfield
    | id docId' =>
      have hhex := Json.string.inj (Json.member_inj (Json.member_inj h).2).2
      rw [DocumentId.hex_injective hhex]

/-- What is written for the parts of a connective determines them on a clock. -/
private theorem listOnClock_eq_of_listToJson (fs gs : List Filter)
    (hf : ∀ s ∈ listScalars fs, s.IsExact) (hg : ∀ s ∈ listScalars gs, s.IsExact)
    (h : listToJson fs = listToJson gs) : listOnClock fs = listOnClock gs := by
  -- the two lists are as long as each other, and agree part by part
  cases fs with
  | nil =>
    cases gs with
    | nil => rfl
    | cons g gs => cases h
  | cons f fs =>
    cases gs with
    | nil => cases h
    | cons g gs =>
      obtain ⟨hhead, htail⟩ := List.cons.inj h
      have hf' := List.forall_mem_append.mp hf
      have hg' := List.forall_mem_append.mp hg
      rw [listOnClock, listOnClock, onClock_eq_of_toJson f g hf'.1 hg'.1 hhead,
        listOnClock_eq_of_listToJson fs gs hf'.2 hg'.2 htail]

end

end Filter

/-- Filters have one text exactly if they are one filter with their instants on a clock, whatever
    their depth, names, patterns and strings.  So filters whose instants a clock shows are told
    apart by their texts. -/
theorem filter_text_determines {f g : Filter} (hf : ∀ s ∈ f.scalars, s.IsExact)
    (hg : ∀ s ∈ g.scalars, s.IsExact) :
    (f.text = g.text ↔ f.onClock = g.onClock) ∧
      ((∀ s ∈ f.scalars, s.IsOnClock) → (∀ s ∈ g.scalars, s.IsOnClock) →
        f.text = g.text → f = g) := by
  have hiff : f.text = g.text ↔ f.onClock = g.onClock := by
    constructor
    · intro h
      exact Filter.onClock_eq_of_toJson f g hf hg (Json.compact_injective h)
    · intro h
      rw [Filter.text, Filter.text, ← f.toJson_onClock, h, g.toJson_onClock]
  refine ⟨hiff, fun hf' hg' h => ?_⟩
  rw [← f.onClock_of_isOnClock hf', hiff.mp h, g.onClock_of_isOnClock hg']

/-- A field that is named as a connective is told apart from the connective. -/
theorem filter_text_determines_connective_name :
    (Filter.null "$or").text =
        (Filter.or [.equals "$or" (.string ""), .field "$or" (.exists false)]).text ∧
      Filter.null "$or" = .or [.equals "$or" (.string ""), .field "$or" (.exists false)] ∧
      (Filter.equals "$or" (.string "[]")).text ≠ (Filter.or []).text := by
  -- all scalars of these filters are strings, which are exact and have no instants
  have hempty : ∀ s ∈ (Filter.null "$or").scalars, s = .string "" := fun s hs =>
    List.mem_singleton.mp hs
  have hlist : ∀ s ∈ (Filter.equals "$or" (.string "[]")).scalars, s = .string "[]" := fun s hs =>
    List.mem_singleton.mp hs
  have hnone : ∀ s : Scalar, s ∉ (Filter.or []).scalars := fun s => List.not_mem_nil
  refine ⟨rfl, ?_, fun htext => ?_⟩
  · exact (filter_text_determines (fun s hs => hempty s hs ▸ trivial)
      (fun s hs => hempty s hs ▸ trivial)).2 (fun s hs => hempty s hs ▸ trivial)
      (fun s hs => hempty s hs ▸ trivial) rfl
  · cases (filter_text_determines (fun s hs => hlist s hs ▸ trivial)
      (fun s hs => absurd hs (hnone s))).1.mp htext

/-- A leap second in the middle of a minute has the text of the second that follows it, so two
    filters that are exact have one text. -/
theorem filter_text_stray_leap_second :
    (Scalar.date .strayLeapSecond).IsExact ∧ (Scalar.date .nextSecond).IsExact ∧
      (Filter.equals "a" (.date .strayLeapSecond)).text =
        (Filter.equals "a" (.date .nextSecond)).text ∧
      Filter.equals "a" (.date .strayLeapSecond) ≠ Filter.equals "a" (.date .nextSecond) := by
  refine ⟨rfl, rfl, rfl, fun h => ?_⟩
  have hdate := Scalar.date.inj (Condition.compare.inj (Filter.field.inj h).2).2
  exact absurd hdate (by decide)

end Sift
