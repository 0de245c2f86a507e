import Cpv.Core.Assignments
import Cpv.Connection.Response
import Cpv.Connection.Stream

namespace cpv

/-- The options of a Connection header, of which the letter case does not matter. -/
def connectionOptions (value : SharedString) : List SharedString :=
  (value.splitOn (byte ',')).map fun option => (trimString option).map toLower

namespace WireRequest

/-- Some Connection header has the option, in whatever letter case its name is written. -/
def HasConnectionOption (wire : WireRequest) (option : SharedString) : Prop :=
  ∃ header ∈ wire.headers, header.1.map toLower = text "connection" ∧ option ∈ connectionOptions header.2

/-- Persistence by the rules of HTTP/1.x: from HTTP/1.1 on unless the client closes, before only if it asks for it. -/
def Persistent (wire : WireRequest) : Prop :=
  ((1 < wire.http_major ∨ wire.http_major = 1 ∧ 1 ≤ wire.http_minor) ∧
      ¬ wire.HasConnectionOption constants.Close) ∨
    (wire.http_major = 1 ∧ wire.http_minor = 0 ∧ wire.HasConnectionOption constants.Keepalive)

/-- Whether the parser takes the connection for persistent, by the flags that the Connection headers set. -/
def http_should_keep_alive (http_major http_minor : Nat) (F_CONNECTION_CLOSE F_CONNECTION_KEEP_ALIVE : Prop) : Prop :=
  if 0 < http_major ∧ 0 < http_minor then ¬ F_CONNECTION_CLOSE else F_CONNECTION_KEEP_ALIVE

/-- For every HTTP/1.x the rules are those of the parser, which refuses data behind a request that is not persistent. -/
theorem persistent_iff_should_keep_alive {wire : WireRequest} (hmajor : wire.http_major = 1) :
    wire.Persistent ↔ http_should_keep_alive wire.http_major wire.http_minor
      (wire.HasConnectionOption constants.Close) (wire.HasConnectionOption constants.Keepalive) := by
  unfold Persistent http_should_keep_alive
  rw [hmajor]
  rcases Nat.eq_zero_or_pos wire.http_minor with hminor | hminor
  · simp [hminor]
  · have hne : wire.http_minor ≠ 0 := by omega
    simp [hminor, hne, Nat.one_le_iff_ne_zero]

/-- The value of the last header that is spelled "Connection". -/
def connectionValue (wire : WireRequest) : SharedString := (lastValue wire.headers constants.Connection).getD []

end WireRequest

end cpv
