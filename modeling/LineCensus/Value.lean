import LineCensus.Calendar
import LineCensus.Number.Shortest
import LineCensus.Text.Quoted

/-!
# Values

What a document can hold: scalars, lists, sets, and mappings in the order of their entries.  A set
is given by its items in the order in which they are gone through.
-/

namespace LineCensus

inductive Value where
  | null
  | bool (b : Bool)
  | int (n : Int)
  | float (x : Binary64)
  | text (s : String)
  | bytes (content : List UInt8)
  | day (d : Day)
  | moment (m : Moment)
  | list (items : List Value)
  /-- A list that cannot be changed: an entry of an ordered mapping, with its two parts. -/
  | tuple (items : List Value)
  | set (items : List Value)
  | mapping (entries : List (Value × Value))
  deriving Inhabited

namespace Value

mutual

def same : Value → Value → Bool
  | null, null => true
  | bool a, bool b => a == b
  | int m, int n => m == n
  | float x, float y => x == y
  | text s, text t => s == t
  | bytes a, bytes b => a == b
  | day a, day b => a == b
  | moment a, moment b => a == b
  | list items, list others => sameItems items others
  | tuple items, tuple others => sameItems items others
  | set items, set others => sameItems items others
  | mapping entries, mapping others => sameEntries entries others
  | _, _ => false

def sameItems : List Value → List Value → Bool
  | [], [] => true
  | a :: rest, b :: others => same a b && sameItems rest others
  | _, _ => false

def sameEntries : List (Value × Value) → List (Value × Value) → Bool
  | [], [] => true
  | (j, a) :: rest, (k, b) :: others => same j k && same a b && sameEntries rest others
  | _, _ => false

end

mutual

theorem same_iff : ∀ a b : Value, same a b = true ↔ a = b
  | null, b | bool _, b | int _, b | float _, b | text _, b | bytes _, b | day _, b | moment _, b => by
    cases b <;> simp [same]
  | list items, b | tuple items, b | set items, b => by
    cases b <;> simp [same, sameItems_iff items]
  | mapping entries, b => by cases b <;> simp [same, sameEntries_iff entries]

theorem sameItems_iff : ∀ items others : List Value,
    sameItems items others = true ↔ items = others
  | [], others => by cases others <;> simp [sameItems]
  | a :: rest, others => by cases others <;> simp [sameItems, same_iff a, sameItems_iff rest]

theorem sameEntries_iff : ∀ entries others : List (Value × Value),
    sameEntries entries others = true ↔ entries = others
  | [], others => by cases others <;> simp [sameEntries]
  | (j, a) :: rest, others => by
    cases others <;>
      simp [sameEntries, same_iff j, same_iff a, sameEntries_iff rest, Prod.ext_iff]

end

instance : DecidableEq Value :=
  fun a b => decidable_of_iff _ (same_iff a b)

/-- Whether the value counts as nothing: null, false, zero, or empty. -/
def isNothing : Value → Bool
  | null => true
  | bool b => !b
  | int n => n == 0
  | float x => x.isZero
  | text s => s.isEmpty
  | bytes content => content.isEmpty
  | day _ => false
  | moment _ => false
  | list items => items.isEmpty
  | tuple items => items.isEmpty
  | set items => items.isEmpty
  | mapping entries => entries.isEmpty

def text? : Value → Option String
  | text s => some s
  | _ => none

theorem text?_eq_some {v : Value} {s : String} : v.text? = some s ↔ v = text s := by
  cases v <;> simp [text?]

def integer? : Value → Option Int
  | bool b => some b.toNat
  | int n => some n
  | float x => x.toInt?
  | _ => none

mutual

/-- Whether two values are equal, as the keys of a mapping are compared: numbers by what they are,
lists item by item, sets and mappings in any order.  What is no number equals nothing, not even
another of its kind. -/
def sameKey : Value → Value → Bool
  | null, null => true
  | text s, text t => s == t
  | float x, float y => (x == y && x != .nan) || (x.toInt?.isSome && x.toInt? == y.toInt?)
  | bytes a, bytes b => a == b
  | day a, day b => a == b
  | moment a, moment b => a.isSame b
  | list items, list others => equalItems items others
  | tuple items, tuple others => equalItems items others
  | set items, set others => items.length == others.length && allIn items others
  | mapping entries, mapping others => entries.length == others.length && allUnder entries others
  | a, b =>
    match a.integer?, b.integer? with
    | some m, some n => m == n
    | _, _ => false
termination_by structural a => a

def equalItems : List Value → List Value → Bool
  | [], [] => true
  | a :: rest, b :: others => sameKey a b && equalItems rest others
  | _, _ => false
termination_by structural items => items

def allIn : List Value → List Value → Bool
  | [], _ => true
  | a :: rest, others => others.any (sameKey a) && allIn rest others
termination_by structural items => items

def allUnder : List (Value × Value) → List (Value × Value) → Bool
  | [], _ => true
  | (k, v) :: rest, others =>
    others.any (fun other => sameKey k other.1 && sameKey v other.2) && allUnder rest others
termination_by structural entries => entries

end

/-- Nothing but the text itself is equal to a text. -/
theorem sameKey_text_iff {v : Value} {name : String} :
    sameKey v (text name) = true ↔ v = text name := by
  cases v <;> simp [sameKey, integer?]

theorem text_sameKey_iff {v : Value} {name : String} :
    sameKey (text name) v = true ↔ v = text name := by
  cases v with
  | text s => exact beq_iff_eq.trans ⟨fun h => h ▸ rfl, fun h => (text.inj h).symm⟩
  | _ => exact ⟨nofun, nofun⟩

/-- Sets a key of a mapping; the key keeps its first place and spelling. -/
def setEntry {α : Type} (entries : List (Value × α)) (key : Value) (value : α) :
    List (Value × α) :=
  match entries with
  | [] => [(key, value)]
  | (other, old) :: rest =>
    if sameKey other key then (other, value) :: rest else (other, old) :: setEntry rest key value

theorem mem_keys_setEntry {α : Type} {entries : List (Value × α)} {key other : Value} {value : α}
    (h : other ∈ (setEntry entries key value).map Prod.fst) :
    other = key ∨ other ∈ entries.map Prod.fst := by
  induction entries with
  | nil => exact .inl (List.mem_singleton.mp h)
  | cons entry rest ih =>
    obtain ⟨first, old⟩ := entry
    rw [setEntry] at h
    split at h
    · exact .inr h
    · rcases List.mem_cons.mp h with rfl | h
      · exact .inr List.mem_cons_self
      · exact (ih h).imp_right (List.mem_cons_of_mem first)

def entry? (entries : List (Value × Value)) (name : String) : Option Value :=
  (entries.find? (fun e => sameKey e.1 (text name))).map Prod.snd

mutual

/-- Whether the value can be a key, or an item of a set: what can be changed cannot. -/
def isHashable : Value → Bool
  | list _ => false
  | set _ => false
  | mapping _ => false
  | tuple items => allHashable items
  | _ => true

def allHashable : List Value → Bool
  | [] => true
  | v :: rest => v.isHashable && allHashable rest

end

/-! ## Values in words -/

def digitLimit : Nat := 4300

mutual

/-- Whether the value can be written: no integer in it is too long for that. -/
def isWritable : Value → Bool
  | int n => decide (n.natAbs < Number.tenTo digitLimit)
  | list items | tuple items | set items => allWritable items
  | mapping entries => allEntriesWritable entries
  | _ => true

def allWritable : List Value → Bool
  | [] => true
  | v :: rest => v.isWritable && allWritable rest

def allEntriesWritable : List (Value × Value) → Bool
  | [] => true
  | (k, v) :: rest => k.isWritable && v.isWritable && allEntriesWritable rest

end

mutual

def quoted : Value → String
  | null => "None"
  | bool b => if b then "True" else "False"
  | int n => toString n
  | float x => x.text
  | text s => Text.quoted s
  | bytes content => Text.quotedBytes content
  | day d => d.written
  | moment m => m.written
  | list items => "[" ++ ", ".intercalate (quotedItems items) ++ "]"
  | tuple items =>
    "(" ++ ", ".intercalate (quotedItems items) ++ (if items.length = 1 then ",)" else ")")
  | set items =>
    if items.isEmpty then "set()"
    else "\x7b" ++ ", ".intercalate (quotedItems items) ++ "\x7d"
  | mapping entries => "\x7b" ++ ", ".intercalate (quotedEntries entries) ++ "\x7d"

def quotedItems : List Value → List String
  | [] => []
  | v :: rest => v.quoted :: quotedItems rest

def quotedEntries : List (Value × Value) → List String
  | [] => []
  | (k, v) :: rest => (k.quoted ++ ": " ++ v.quoted) :: quotedEntries rest

end

def shown : Value → String
  | text s => s
  | day d => d.text
  | moment m => m.text
  | v => v.quoted

def unwritable : String :=
  "Exceeds the limit (4300 digits) for integer string conversion; " ++
    "use sys.set_int_max_str_digits() to increase the limit"

end Value

end LineCensus
