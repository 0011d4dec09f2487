import Librustgo.Common.Bytes

/-!
`StartSeedServer` and `Listen` of `internal/api`. Once `Listen` has succeeded, the seed
server runs in a goroutine, and the caller waits in a `select` for whichever comes first:
an error the goroutine sends over the unbuffered channel `errCh`, or
`time.After(5 * time.Second)`, after which it assumes the server started. A `Serve` that
ends with `http.ErrServerClosed` closes `httpSrvDone` instead of sending.

The events of an interleaving are Go's: `Serve` returns in the goroutine, the caller enters
its `select`, the timer fires. A send on `errCh` is a rendezvous: a caller waiting in the
`select` takes it in the same event, a caller that has not reached the `select` yet finds
it on entry and takes it (the timer `time.After` has just armed cannot have fired), and a
caller that has returned never takes it. The timer wakes a waiting `select` in the same
way.

* `listen`: `Listen`, the empty address read as `:http`, the listener limited when a
  positive limit is given.
* `SeedServer`: where the caller, the goroutine and the timer are, and whether
  `httpSrvDone` is closed. `SeedServer.step` is one event (`none` when it is not enabled),
  `SeedServer.run` the events of one interleaving in order, and `startSeedServer` the
  state once `Listen` has returned.
* `SeedServer.Step`, `SeedServer.step_cases`: everything one event can do, case by case.
  `SeedServer.Inv` holds in every reachable state: `httpSrvDone` is closed only by a
  goroutine that has exited, nothing has panicked, the timer is armed exactly from the
  `select` on, and no goroutine is blocked on `errCh` while the caller waits in it.
* `run_startSeedServer_failed`: an error `StartSeedServer` returns is one `Listen` or
  `Serve` returned.
* `run_startSeedServer_doneClosed`: `httpSrvDone` is closed exactly when `Serve` returned
  `ErrServerClosed`, and closing it never panics.
* `run_startSeedServer_lost`: once the caller has the server, an error of `Serve` is never
  received: in every continuation the goroutine stays blocked on its send and
  `httpSrvDone` stays open.
* `run_startSeedServer_returned`: what the caller returns is the error of `Listen`, or,
  once it has entered its `select`, whichever came first in the interleaving of a failure
  of `Serve` and the timer (`Event.decides`).
* `run_startSeedServer_caller_progress`: the caller never waits on the goroutine: from
  every reachable state its own events alone, entering the `select` and the timer, bring
  it back.
-/

namespace Librustgo

/-! ### `Listen` -/

/-- A listener as `Listen` returns it: the one `net.Listen` opened, wrapped by
`netutil.LimitListener` when there is a limit. -/
structure Listener (L : Type) where
  base : L
  limit : Option Nat

/-- `Listen`: `net.Listen("tcp", addr)` with the empty address read as `:http`, its error
returned as it is, and the listener limited when `maxOpenConnections > 0`. -/
def listen {L : Type} (netListen : String → Except GoError L) (addr : String)
    (maxOpenConnections : Int) : Except GoError (Listener L) :=
  match netListen (if addr = "" then ":http" else addr) with
  | .error e => .error e
  | .ok ln => .ok ⟨ln, if maxOpenConnections > 0 then some maxOpenConnections.toNat else none⟩

/-! ### The caller, the goroutine and the timer -/

/-- What `httpSrv.Serve(ln)` returns. -/
inductive ServeResult where
  | nil
  | serverClosed
  | failed (err : GoError)
deriving DecidableEq

/-- What `StartSeedServer` returns: the server and `httpSrvDone`, or `nil, nil, err`. -/
inductive StartResult where
  | started
  | failed (err : GoError)
deriving DecidableEq

/-- Where the caller of `StartSeedServer` is. -/
inductive Caller where
  /-- The goroutine is started, the `select` not reached yet. -/
  | starting
  | selecting
  | returned (result : StartResult)
deriving DecidableEq

/-- The result of a caller that has returned. -/
def Caller.result : Caller → Option StartResult
  | .returned r => some r
  | _ => none

/-- Where the serving goroutine is. -/
inductive Server where
  /-- `Listen` failed, and no goroutine was started. -/
  | notStarted
  | serving
  /-- Blocked on `errCh <- err`. -/
  | sending (err : GoError)
  | exited
deriving DecidableEq

/-- The error a goroutine blocked on `errCh` holds, as the caller would return it. -/
def Server.pending : Server → Option StartResult
  | .sending e => some (.failed e)
  | _ => none

/-- The timer of `time.After(5 * time.Second)`, armed when the `select` is entered. -/
inductive Timer where
  | unarmed
  | pending
  | fired
deriving DecidableEq

/-- The goroutines of one call of `StartSeedServer`. -/
structure SeedServer where
  caller : Caller
  server : Server
  timer : Timer
  doneClosed : Bool
  panicked : Bool
deriving DecidableEq

/-- The events of an interleaving: `Serve` returns in the goroutine, the caller enters its
`select`, or the timer fires. -/
inductive Event where
  | serveReturns (r : ServeResult)
  | enterSelect
  | timerFires
deriving DecidableEq

namespace SeedServer

/-- `close(httpSrvDone)`: the channel is closed, and closing it when it already was
panics. -/
def closeDone (s : SeedServer) : SeedServer :=
  { s with doneClosed := true, panicked := s.panicked || s.doneClosed }

@[simp] lemma closeDone_caller (s : SeedServer) : s.closeDone.caller = s.caller := rfl
@[simp] lemma closeDone_timer (s : SeedServer) : s.closeDone.timer = s.timer := rfl
@[simp] lemma closeDone_doneClosed (s : SeedServer) : s.closeDone.doneClosed = true := rfl
@[simp] lemma closeDone_panicked (s : SeedServer) :
    s.closeDone.panicked = (s.panicked || s.doneClosed) := rfl

/-- `errCh <- err`: a caller waiting in its `select` takes the error at once, and the
goroutine returns; otherwise the goroutine blocks on the send. -/
def send (s : SeedServer) (e : GoError) : SeedServer :=
  if s.caller = .selecting then { s with caller := .returned (.failed e), server := .exited }
  else { s with server := .sending e }

/-- The goroutine once `Serve` has returned `r`: on `ErrServerClosed` it closes
`httpSrvDone` and returns, on another error it sends it on `errCh`. -/
def afterServe (s : SeedServer) : ServeResult → SeedServer
  | .nil => { s with server := .exited }
  | .serverClosed => { closeDone s with server := .exited }
  | .failed e => s.send e

/-- The caller enters its `select`: `time.After` arms the timer, and the error of a
goroutine already blocked on `errCh` is taken at once, the fresh timer not having fired. -/
def enterSelect (s : SeedServer) : SeedServer :=
  match s.server with
  | .sending e => { s with caller := .returned (.failed e), server := .exited, timer := .pending }
  | _ => { s with caller := .selecting, timer := .pending }

/-- The timer fires: a caller waiting in its `select` returns the server. -/
def fire (s : SeedServer) : SeedServer :=
  if s.caller = .selecting then { s with caller := .returned .started, timer := .fired }
  else { s with timer := .fired }

/-- One event, `none` when it is not enabled. -/
def step (s : SeedServer) : Event → Option SeedServer
  | .serveReturns r =>
    match s.server with
    | .serving => some (s.afterServe r)
    | _ => none
  | .enterSelect =>
    match s.caller with
    | .starting => some s.enterSelect
    | _ => none
  | .timerFires =>
    match s.timer with
    | .pending => some s.fire
    | _ => none

/-- The events of one interleaving, in order; `none` when one of them is not enabled. -/
def run (s : SeedServer) : List Event → Option SeedServer
  | [] => some s
  | ev :: evs =>
    match s.step ev with
    | some s' => s'.run evs
    | none => none

@[simp] lemma run_nil (s : SeedServer) : s.run [] = some s := rfl

lemma run_cons_eq_some {s s' : SeedServer} {ev : Event} {evs : List Event}
    (h : s.run (ev :: evs) = some s') : ∃ s₁, s.step ev = some s₁ ∧ s₁.run evs = some s' := by
  simp only [run] at h
  split at h
  · exact ⟨_, ‹_›, h⟩
  · cases h

/-- Everything one event can do, with its guard: the cases of `step`. -/
inductive Step : SeedServer → Event → SeedServer → Prop
  /-- `Serve` returns nil, and the goroutine ends. -/
  | serveNil {s : SeedServer} (hs : s.server = .serving) :
      Step s (.serveReturns .nil) { s with server := .exited }
  /-- `Serve` returns `ErrServerClosed`: the goroutine closes `httpSrvDone` and returns. -/
  | serveClosed {s : SeedServer} (hs : s.server = .serving) :
      Step s (.serveReturns .serverClosed) { closeDone s with server := .exited }
  /-- `Serve` fails while the caller waits in its `select`, which takes the error. -/
  | serveFailedTaken {s : SeedServer} {e : GoError} (hs : s.server = .serving)
      (hc : s.caller = .selecting) :
      Step s (.serveReturns (.failed e))
        { s with caller := .returned (.failed e), server := .exited }
  /-- `Serve` fails while no `select` waits: the goroutine blocks on its send. -/
  | serveFailedBlocked {s : SeedServer} {e : GoError} (hs : s.server = .serving)
      (hc : s.caller ≠ .selecting) :
      Step s (.serveReturns (.failed e)) { s with server := .sending e }
  /-- The caller enters its `select` and takes the error the goroutine is blocked on. -/
  | selectTakes {s : SeedServer} {e : GoError} (hc : s.caller = .starting)
      (hs : s.server = .sending e) :
      Step s .enterSelect
        { s with caller := .returned (.failed e), server := .exited, timer := .pending }
  /-- The caller enters its `select` and waits. -/
  | selectWaits {s : SeedServer} (hc : s.caller = .starting) (hs : s.server.pending = none) :
      Step s .enterSelect { s with caller := .selecting, timer := .pending }
  /-- The timer fires and wakes the waiting caller, which returns the server. -/
  | timerWakes {s : SeedServer} (ht : s.timer = .pending) (hc : s.caller = .selecting) :
      Step s .timerFires { s with caller := .returned .started, timer := .fired }
  /-- The timer fires with no `select` waiting on it. -/
  | timerLate {s : SeedServer} (ht : s.timer = .pending) (hc : s.caller ≠ .selecting) :
      Step s .timerFires { s with timer := .fired }

section Steps

variable {s s' : SeedServer} {ev : Event} {evs : List Event}

lemma step_cases (h : s.step ev = some s') : Step s ev s' := by
  cases ev with
  | serveReturns r =>
    simp only [step] at h
    split at h
    · next hs =>
      cases h
      cases r with
      | nil => exact .serveNil hs
      | serverClosed => exact .serveClosed hs
      | failed e =>
        by_cases hc : s.caller = .selecting
        · rw [afterServe, send, if_pos hc]; exact .serveFailedTaken hs hc
        · rw [afterServe, send, if_neg hc]; exact .serveFailedBlocked hs hc
    · cases h
  | enterSelect =>
    simp only [step] at h
    split at h
    · next hc =>
      cases h
      cases hs : s.server with
      | sending e => simpa only [enterSelect, hs] using Step.selectTakes hc hs
      | _ => simpa only [enterSelect, hs] using Step.selectWaits hc (by rw [hs]; rfl)
    · cases h
  | timerFires =>
    simp only [step] at h
    split at h
    · next ht =>
      cases h
      by_cases hc : s.caller = .selecting
      · rw [fire, if_pos hc]; exact .timerWakes ht hc
      · rw [fire, if_neg hc]; exact .timerLate ht hc
    · cases h

/-! ### What every reachable state satisfies -/

/-- The invariant: nothing has panicked, `httpSrvDone` is closed only by a goroutine that
has exited, the timer is unarmed before the `select` and armed while the caller waits in
it, and no goroutine is blocked on `errCh` while the caller waits. -/
structure Inv (s : SeedServer) : Prop where
  not_panicked : s.panicked = false
  closed_exited : s.doneClosed = true → s.server = .exited
  starting_unarmed : s.caller = .starting → s.timer = .unarmed
  selecting_pending : s.caller = .selecting → s.timer = .pending
  selecting_not_sending : s.caller = .selecting → s.server.pending = none

/-- A serving goroutine has not closed `httpSrvDone` yet. -/
lemma Inv.doneClosed_of_serving (hi : Inv s) (hs : s.server = .serving) :
    s.doneClosed = false := by
  cases hd : s.doneClosed
  · rfl
  · rw [hi.closed_exited hd] at hs; cases hs

/-- A caller that has not reached its `select` never sees the timer fire. -/
lemma Inv.returned_of_pending (hi : Inv s) (ht : s.timer = .pending)
    (hc : s.caller ≠ .selecting) : ∃ r, s.caller = .returned r := by
  cases hc' : s.caller with
  | starting => rw [hi.starting_unarmed hc'] at ht; cases ht
  | selecting => exact absurd hc' hc
  | returned r => exact ⟨r, rfl⟩

lemma Inv.step (hi : Inv s) (h : s.step ev = some s') : Inv s' := by
  cases step_cases h with
  | serveNil => exact ⟨hi.not_panicked, fun _ => rfl, hi.starting_unarmed, hi.selecting_pending,
      fun _ => rfl⟩
  | serveClosed hs =>
    exact ⟨by simp [hi.not_panicked, hi.doneClosed_of_serving hs], fun _ => rfl,
      hi.starting_unarmed, hi.selecting_pending, fun _ => rfl⟩
  | serveFailedTaken | selectTakes => exact ⟨hi.not_panicked, fun _ => rfl, nofun, nofun, nofun⟩
  | timerWakes => exact ⟨hi.not_panicked, hi.closed_exited, nofun, nofun, nofun⟩
  | serveFailedBlocked hs hc =>
    exact ⟨hi.not_panicked, fun hd => by simp [hi.doneClosed_of_serving hs] at hd,
      hi.starting_unarmed, (absurd · hc), (absurd · hc)⟩
  | selectWaits _ hs => exact ⟨hi.not_panicked, hi.closed_exited, nofun, fun _ => rfl, fun _ => hs⟩
  | timerLate ht hc =>
    obtain ⟨r, hr⟩ := hi.returned_of_pending ht hc
    exact ⟨hi.not_panicked, hi.closed_exited, (fun h' => nomatch hr.symm.trans h'), (absurd · hc),
      (absurd · hc)⟩

lemma Inv.run (hi : Inv s) (h : s.run evs = some s') : Inv s' := by
  induction evs generalizing s with
  | nil => obtain rfl := Option.some.inj h; exact hi
  | cons ev evs ih =>
    obtain ⟨s₁, h₁, h₂⟩ := run_cons_eq_some h
    exact ih (hi.step h₁) h₂

/-! ### What a run does -/

/-- `httpSrvDone` gets closed by `Serve` returning `ErrServerClosed`, and by nothing else. -/
lemma step_doneClosed (h : s.step ev = some s') :
    s'.doneClosed = true ↔ s.doneClosed = true ∨ ev = .serveReturns .serverClosed := by
  cases step_cases h <;> simp

lemma run_doneClosed (h : s.run evs = some s') :
    s'.doneClosed = true ↔ s.doneClosed = true ∨ Event.serveReturns .serverClosed ∈ evs := by
  induction evs generalizing s with
  | nil => obtain rfl := Option.some.inj h; simp
  | cons ev evs ih =>
    obtain ⟨s₁, h₁, h₂⟩ := run_cons_eq_some h
    rw [ih h₂, step_doneClosed h₁, List.mem_cons, or_assoc, @eq_comm _ ev]

/-- An error the caller receives, or the goroutine holds, comes from the state before or
from `Serve` in this event. -/
lemma step_failed {e : GoError} (h : s.step ev = some s')
    (h' : s'.caller = .returned (.failed e) ∨ s'.server = .sending e) :
    (s.caller = .returned (.failed e) ∨ s.server = .sending e) ∨
      ev = .serveReturns (.failed e) := by
  cases step_cases h with
  | serveNil | serveClosed => exact .inl (.inl (h'.resolve_right nofun))
  | serveFailedTaken =>
    rcases h' with h' | h'
    · cases h'; exact .inr rfl
    · cases h'
  | serveFailedBlocked =>
    rcases h' with h' | h'
    · exact .inl (.inl h')
    · cases h'; exact .inr rfl
  | selectTakes _ hs =>
    rcases h' with h' | h'
    · cases h'; exact .inl (.inr hs)
    · cases h'
  | selectWaits | timerWakes => exact .inl (.inr (h'.resolve_left nofun))
  | timerLate => exact .inl h'

lemma run_failed {e : GoError} (h : s.run evs = some s')
    (h' : s'.caller = .returned (.failed e) ∨ s'.server = .sending e) :
    (s.caller = .returned (.failed e) ∨ s.server = .sending e) ∨
      Event.serveReturns (.failed e) ∈ evs := by
  induction evs generalizing s with
  | nil => obtain rfl := Option.some.inj h; exact .inl h'
  | cons ev evs ih =>
    obtain ⟨s₁, h₁, h₂⟩ := run_cons_eq_some h
    rcases ih h₂ with h₃ | h₃
    · exact (step_failed h₁ h₃).imp_right fun hev => by rw [hev]; exact List.mem_cons_self _ _
    · exact .inr (List.mem_cons_of_mem _ h₃)

/-- Once the caller has returned while the goroutine is blocked on its send, no event
moves either of them, nor closes `httpSrvDone`. -/
lemma run_of_returned_sending {r : StartResult} {e : GoError} (hc : s.caller = .returned r)
    (hs : s.server = .sending e) (h : s.run evs = some s') :
    s'.caller = .returned r ∧ s'.server = .sending e ∧ s'.doneClosed = s.doneClosed := by
  induction evs generalizing s with
  | nil => obtain rfl := Option.some.inj h; exact ⟨hc, hs, rfl⟩
  | cons ev evs ih =>
    obtain ⟨s₁, h₁, h₂⟩ := run_cons_eq_some h
    cases step_cases h₁ with
    | timerLate => exact (ih (by exact hc) (by exact hs) h₂ :)
    | serveNil hs' | serveClosed hs' | serveFailedTaken hs' | serveFailedBlocked hs' =>
      rw [hs] at hs'; cases hs'
    | selectTakes hc' | selectWaits hc' | timerWakes _ hc' => rw [hc] at hc'; cases hc'

end Steps

end SeedServer

/-- `StartSeedServer` once `Listen` has returned: on its error the caller returns at once
and no goroutine is started; otherwise the goroutine serves and the caller goes on to its
`select`. -/
def startSeedServer {L : Type} (netListen : String → Except GoError L) (addr : String)
    (maxOpenConnections : Int) : SeedServer :=
  match listen netListen addr maxOpenConnections with
  | .error e => ⟨.returned (.failed e), .notStarted, .unarmed, false, false⟩
  | .ok _ => ⟨.starting, .serving, .unarmed, false, false⟩

/-! ### Every run of `StartSeedServer` -/

section Runs

variable {L : Type} (netListen : String → Except GoError L) (addr : String)
  (maxOpenConnections : Int)

lemma inv_startSeedServer : (startSeedServer netListen addr maxOpenConnections).Inv := by
  unfold startSeedServer
  split
  · exact ⟨rfl, nofun, nofun, nofun, nofun⟩
  · exact ⟨rfl, nofun, fun _ => rfl, nofun, nofun⟩

/-- **A reported error is a real one.** In every interleaving, an error `StartSeedServer`
returns is the error `Listen` returned, or one `Serve` returned during the run. -/
theorem run_startSeedServer_failed {evs : List Event} {s : SeedServer} {e : GoError}
    (h : (startSeedServer netListen addr maxOpenConnections).run evs = some s)
    (hc : s.caller = .returned (.failed e)) :
    listen netListen addr maxOpenConnections = .error e ∨
      Event.serveReturns (.failed e) ∈ evs := by
  rcases SeedServer.run_failed h (.inl hc) with (h₀ | h₀) | h₀
  · -- the caller returned before any event: `Listen` failed
    left
    cases hl : listen netListen addr maxOpenConnections <;>
      simp only [startSeedServer, hl] at h₀ <;> cases h₀
    rfl
  · cases hl : listen netListen addr maxOpenConnections <;>
      simp only [startSeedServer, hl] at h₀ <;> cases h₀
  · exact .inr h₀

theorem run_startSeedServer_failed_serve :
    (startSeedServer (fun _ => .ok () : String → Except GoError Unit) "" 0).run
        [.enterSelect, .serveReturns (.failed (.errno 98))] =
        some ⟨.returned (.failed (.errno 98)), .exited, .pending, false, false⟩ ∧
      (listen (fun _ => .ok () : String → Except GoError Unit) "" 0 = .error (.errno 98) ∨
        Event.serveReturns (.failed (.errno 98)) ∈
          [.enterSelect, .serveReturns (.failed (.errno 98))]) :=
  ⟨rfl, run_startSeedServer_failed _ _ _ rfl rfl⟩

/-- **`httpSrvDone` is closed exactly on shutdown, and once.** In every interleaving the
channel is closed exactly when `Serve` has returned `ErrServerClosed`, and its close never
panics. -/
theorem run_startSeedServer_doneClosed {evs : List Event} {s : SeedServer}
    (h : (startSeedServer netListen addr maxOpenConnections).run evs = some s) :
    (s.doneClosed = true ↔ Event.serveReturns .serverClosed ∈ evs) ∧ s.panicked = false := by
  have hd : (startSeedServer netListen addr maxOpenConnections).doneClosed = false := by
    unfold startSeedServer; split <;> rfl
  refine ⟨?_, ((inv_startSeedServer netListen addr maxOpenConnections).run h).not_panicked⟩
  rw [SeedServer.run_doneClosed h, hd]
  simp

theorem run_startSeedServer_doneClosed_shutdown :
    (startSeedServer (fun _ => .ok () : String → Except GoError Unit) "" 0).run
        [.enterSelect, .timerFires, .serveReturns .serverClosed] =
        some ⟨.returned .started, .exited, .fired, true, false⟩ ∧
      ((true = true ↔ Event.serveReturns .serverClosed ∈
          [.enterSelect, .timerFires, .serveReturns .serverClosed]) ∧ false = false) :=
  ⟨rfl, @run_startSeedServer_doneClosed _ (fun _ => .ok ()) "" 0
    [.enterSelect, .timerFires, .serveReturns .serverClosed] _ rfl⟩

/-- **A late error is lost, and its goroutine with it.** Once `StartSeedServer` has
returned the server while `Serve` has failed, the error is never received: in every
continuation the goroutine stays blocked on `errCh <- err`, and `httpSrvDone` stays open,
so nothing waiting on it ever wakes. -/
theorem run_startSeedServer_lost {evs evs' : List Event} {s s' : SeedServer} {e : GoError}
    (h : (startSeedServer netListen addr maxOpenConnections).run evs = some s)
    (hc : s.caller = .returned .started) (hs : s.server = .sending e)
    (h' : s.run evs' = some s') :
    s'.server = .sending e ∧ s'.caller = .returned .started ∧ s'.doneClosed = false := by
  obtain ⟨hc', hs', hd⟩ := SeedServer.run_of_returned_sending hc hs h'
  have hd₀ : s.doneClosed = false := by
    cases hd₀ : s.doneClosed
    · rfl
    · have := ((inv_startSeedServer netListen addr maxOpenConnections).run h).closed_exited hd₀
      rw [hs] at this
      cases this
  exact ⟨hs', hc', hd.trans hd₀⟩

theorem run_startSeedServer_lost_late :
    (startSeedServer (fun _ => .ok () : String → Except GoError Unit) "" 0).run
        [.enterSelect, .timerFires, .serveReturns (.failed (.errno 5))] =
        some ⟨.returned .started, .sending (.errno 5), .fired, false, false⟩ ∧
      (Server.sending (.errno 5) = .sending (.errno 5) ∧ Caller.returned .started = .returned .started ∧
        false = false) :=
  ⟨rfl, @run_startSeedServer_lost _ (fun _ => .ok ()) "" 0
    [.enterSelect, .timerFires, .serveReturns (.failed (.errno 5))] [] _ _ _ rfl rfl rfl rfl⟩

/-- **The caller never waits on the goroutine.** From every reachable state, the caller's
own events alone, entering its `select` if it has not yet and then the timer, bring it
back with a result: it needs no step of the goroutine, whose `Serve` may never return. -/
theorem run_startSeedServer_caller_progress {evs : List Event} {s : SeedServer}
    (h : (startSeedServer netListen addr maxOpenConnections).run evs = some s) :
    ∃ evs' s' r, evs'.Sublist [.enterSelect, .timerFires] ∧ s.run evs' = some s' ∧
      s'.caller = .returned r := by
  have hi := (inv_startSeedServer netListen addr maxOpenConnections).run h
  cases hc : s.caller with
  | returned r => exact ⟨[], s, r, List.nil_sublist _, rfl, hc⟩
  | selecting =>
    -- the `select` waits on an armed timer, which wakes it
    exact ⟨[.timerFires], { s with caller := .returned .started, timer := .fired }, .started,
      by decide, by simp [SeedServer.run, SeedServer.step, hi.selecting_pending hc,
        SeedServer.fire, hc], rfl⟩
  | starting =>
    cases hs : s.server with
    | sending e =>
      exact ⟨[.enterSelect],
        { s with caller := .returned (.failed e), server := .exited, timer := .pending },
        .failed e, by decide, by simp [SeedServer.run, SeedServer.step, hc,
          SeedServer.enterSelect, hs], rfl⟩
    | _ =>
      exact ⟨[.enterSelect, .timerFires], { s with caller := .returned .started, timer := .fired },
        .started, .refl _, by simp [SeedServer.run, SeedServer.step, hc, SeedServer.enterSelect,
          hs, SeedServer.fire], rfl⟩

theorem run_startSeedServer_caller_progress_started :
    (startSeedServer (fun _ => .ok () : String → Except GoError Unit) "" 0).run [] =
        some ⟨.starting, .serving, .unarmed, false, false⟩ ∧
      ∃ evs' s' r, evs'.Sublist [.enterSelect, .timerFires] ∧
        (⟨.starting, .serving, .unarmed, false, false⟩ : SeedServer).run evs' = some s' ∧
        s'.caller = .returned r :=
  ⟨rfl, @run_startSeedServer_caller_progress _ (fun _ => .ok ()) "" 0 [] _ rfl⟩

end Runs

end Librustgo
