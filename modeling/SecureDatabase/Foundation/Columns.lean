import SecureDatabase.Foundation.Json
import SecureDatabase.Foundation.Table

/-!
# Parameters of statements and what columns keep of them

A server reads the parameters of a statement before it executes it. A text with a NUL
is no text of the server, and a time may lie outside the range of its timestamps. A
statement with such a parameter fails with the refusal of the first one and executes
nothing.

A column need not keep what was sent. A `TIMESTAMPTZ` counts microseconds, so the
driver cuts a time to the microsecond. A `JSONB` column keeps a document in a form of
the server's own, or refuses it; which form that is, is left open.
-/

namespace SecureDatabase.Foundation

/-- A time of a process: nanoseconds since the server's epoch, 2000-01-01 in UTC. -/
structure DateTime where
  nanoseconds : Int
deriving DecidableEq

namespace DateTime

/-- What the driver sends for a time: whole microseconds, cut towards the epoch. -/
def timestamptz (time : DateTime) : Int := time.nanoseconds.tdiv 1000

/-- The time as which a stored timestamp is read. -/
def ofTimestamptz (microseconds : Int) : DateTime := ⟨microseconds * 1000⟩

/-- What is read back of a time that was stored. -/
def kept (time : DateTime) : DateTime := ofTimestamptz time.timestamptz

/-- A time survives its column exactly when it has no nanoseconds below a microsecond. -/
theorem kept_eq_self_iff (time : DateTime) : time.kept = time ↔ 1000 ∣ time.nanoseconds := by
  obtain ⟨nanoseconds⟩ := time
  simp only [kept, ofTimestamptz, timestamptz, mk.injEq]
  constructor
  · intro same
    exact Dvd.intro_left _ same
  · exact Int.tdiv_mul_cancel

/-- Earlier times have fewer nanoseconds. -/
instance : LT DateTime := ⟨fun left right => left.nanoseconds < right.nanoseconds⟩

instance (left right : DateTime) : Decidable (left < right) :=
  inferInstanceAs (Decidable (left.nanoseconds < right.nanoseconds))

/-- The first whole microsecond that is not before a time. -/
def ceiling (time : DateTime) : Int := -(-time.nanoseconds / 1000)

/-- The whole microseconds before a time are those before its ceiling. -/
theorem ofTimestamptz_lt_iff (microseconds : Int) (time : DateTime) :
    ofTimestamptz microseconds < time ↔ microseconds < time.ceiling := by
  change microseconds * 1000 < time.nanoseconds ↔ microseconds < -(-time.nanoseconds / 1000)
  omega

end DateTime

/-- A parameter whose value the server may refuse. -/
inductive Parameter where
  | text (content : String)
  | timestamptz (microseconds : Int)

/-- The error of a refused parameter. -/
def Parameter.refusal : Parameter → Option String
  | text content =>
      if '\x00' ∈ content.toList then some "invalid byte sequence for encoding \"UTF8\": 0x00"
      else none
  | timestamptz microseconds =>
      if isTimestamp microseconds then none else some "timestamp out of range"

/-- The server refuses none of the parameters. -/
def Received (parameters : List Parameter) : Prop :=
  ∀ parameter ∈ parameters, parameter.refusal = none

instance (parameters : List Parameter) : Decidable (Received parameters) :=
  inferInstanceAs (Decidable (∀ parameter ∈ parameters, parameter.refusal = none))

/-- A text is refused exactly for a NUL. -/
theorem received_text_iff (content : String) :
    Received [.text content] ↔ '\x00' ∉ content.toList := by
  simp [Received, Parameter.refusal]

/-- Execute a body once the parameters of its statement are read. -/
def receive {α : Type} (parameters : List Parameter) (body : Except String α) :
    Except String α :=
  match parameters.findSome? Parameter.refusal with
  | some error => .error error
  | none => body

/-- Parameters of which none is refused change nothing about a statement. -/
theorem receive_of_received {α : Type} {parameters : List Parameter}
    (received : Received parameters) (body : Except String α) : receive parameters body = body := by
  rw [receive, List.findSome?_eq_none_iff.mpr received]

/-- A statement succeeds exactly when its parameters are received and its body does. -/
theorem receive_eq_ok_iff {α : Type} (parameters : List Parameter) (body : Except String α)
    (result : α) :
    receive parameters body = .ok result ↔ Received parameters ∧ body = .ok result := by
  unfold receive Received
  rw [← List.findSome?_eq_none_iff]
  cases parameters.findSome? Parameter.refusal with
  | none => simp
  | some error => simp

/-- How a `JSONB` column keeps a document, as it is read back, unless it is refused. -/
abbrev Jsonb : Type := Json → Except String Json

end SecureDatabase.Foundation
