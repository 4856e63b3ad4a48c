import Patchbay.Volume.Client
/-!
# Getting a connection

A request goes over the connection that there is. If there is none the client opens one, and all that can come of
this is a new connection or a failure that is no refusal; the network was asked for nothing else meanwhile
(`ensureConnected_cases`). So a client without a connection hears nothing that was meant for an earlier one
(`reconnects`).
-/

namespace Patchbay.Volume.Client

open Patchbay.Net Patchbay.Wire

variable {ω : Type} {n : Network ω} {c : Client} {w : ω}

theorem keepsConnection_ofFault (f : Fault) : keepsConnection (.ofFault f) = false := by
  rw [VolumeError.ofFault]
  split <;> rfl

/-- The client with a connection that was opened just now. -/
def connected (c : Client) (connection : Nat) : Client :=
  { c with connection := some connection, backoff := c.backoff.reset, retryAt := none }

/-- The client fails to connect, and remembers what it did before. At most it tried. -/
def FailsToConnect (n : Network ω) (c : Client) (w : ω) (out : Except VolumeError Unit × Client × ω) : Prop :=
  ∃ e, out.1 = .error e ∧ keepsConnection e = false ∧ out.2.1.known = c.known ∧
    (out.2.2 = w ∨ out.2.2 = (n.connect c.path w).2)

theorem connect_cases (n : Network ω) (w : ω) (hnone : c.connection = none) :
    (∃ connection w', n.connect c.path w = (.ok connection, w') ∧
        c.connect n w = (.ok (), c.connected connection, w')) ∨
      FailsToConnect n c w (c.connect n w) := by
  rw [connect, openConnection]
  have hdown : ¬ c.isConnected := by
    rw [isConnected, hnone]
    exact Bool.false_ne_true
  rw [if_neg hdown]
  split
  · exact .inr ⟨_, rfl, rfl, rfl, .inl rfl⟩
  · by_cases hpath : !Address.fits c.path
    · rw [if_pos hpath]
      exact .inr ⟨_, rfl, rfl, rfl, .inl rfl⟩
    · rw [if_neg hpath]
      rcases hopen : n.connect c.path w with ⟨f | connection, w'⟩
      · exact .inr ⟨_, rfl, keepsConnection_ofFault f, rfl, .inr (congrArg Prod.snd hopen).symm⟩
      · exact .inl ⟨connection, w', rfl, rfl⟩

/-- There is a connection, or one is opened, or the client fails to connect. -/
theorem ensureConnected_cases (n : Network ω) (c : Client) (w : ω) :
    (∃ connection, c.connection = some connection ∧ c.ensureConnected n w = (.ok (), c, w)) ∨
      (∃ connection w', c.connection = none ∧ n.connect c.path w = (.ok connection, w') ∧
        c.ensureConnected n w = (.ok (), c.connected connection, w')) ∨
      FailsToConnect n c w (c.ensureConnected n w) := by
  rw [ensureConnected, isConnected]
  cases hconnection : c.connection with
  | some connection => exact .inl ⟨connection, rfl, rfl⟩
  | none =>
    rw [Option.isSome_none, if_neg Bool.false_ne_true]
    split
    · exact .inr (.inr ⟨_, rfl, rfl, rfl, .inl rfl⟩)
    · rcases connect_cases n w hconnection with ⟨connection, w', hopen, hconnect⟩ | hfails
      · exact .inr (.inl ⟨connection, w', rfl, hopen, hconnect⟩)
      · exact .inr (.inr hfails)

/-- The request goes over a connection that is opened for it, or it fails and at most the client tried to connect. -/
def Reconnects (n : Network ω) (request : Request) (c : Client) (w : ω) : Prop :=
  (∃ connection w', n.connect c.path w = (.ok connection, w') ∧
      c.request n request w = (c.connected connection).send n request w') ∨
    ∃ e, (c.request n request w).1 = .error e ∧
      ((c.request n request w).2.2 = w ∨ (c.request n request w).2.2 = (n.connect c.path w).2)

theorem reconnects (hnone : c.connection = none) (request : Request) (w : ω) : c.Reconnects n request w := by
  rcases ensureConnected_cases n c w with ⟨connection, hconnected, -⟩ | ⟨connection, w', -, hopen, hensure⟩ |
    ⟨e, herror, -, -, hworld⟩
  · rw [hnone] at hconnected
    cases hconnected
  · refine .inl ⟨connection, w', hopen, ?_⟩
    simp only [Client.request, hensure]
  · rcases hensure : c.ensureConnected n w with ⟨ready, c', w'⟩
    rw [hensure] at herror hworld
    cases herror
    have hrequest : c.request n request w = (.error e, c', w') := by
      simp only [Client.request, hensure]
    rw [Reconnects, hrequest]
    exact .inr ⟨e, rfl, hworld⟩

end Patchbay.Volume.Client
