/-
Counter requests of a nanomsg source: `get_nn_counters` against the INFO_REP handler.

`get_nn_counters(p)` deletes the cached counters of `p` if there are any, then, holding
the source's condition, sends an INFO_REQ for `p` and waits, again and again, until the
cache has an entry for `p` or the time is up, and returns `cache.get(p)`.  The capture
loop's `recv` stores every INFO_REP it reads for a port of the source and wakes all
waiters.  An INFO_REP carries no request identifier.

`InfoSys` is one source with its caller threads, the peer and the two channels.  One
`InfoAction` is one statement outside the condition, one pass of the waiting loop under
it, one step of the peer, or one reply read by the capture loop.  The ghosts: each
request and reply carries the call that sent the request, and `handled` logs every reply
the capture loop stored with the number of replies stored before it.

* `stale_counters_returned` — a call can return the reply to a request of an earlier
  call that timed out;
* `returned_counters_fresh` — every value a call returns is the counter pair of a reply
  for its port that the capture loop stored after the call started, by the invariant
  `InfoInv` of every interleaving.
-/
import PtfDataplane.Engine

namespace PtfDataplane

/-- An INFO_REP with counters: the port, the `(rx, tx)` pair, and the call whose
request it answers (a ghost). -/
structure CtrReply where
  port : Int
  counters : Int × Int
  call : Nat
  deriving DecidableEq

/-- An entry of `nn_counters`: the counter pair, with (ghosts) the call whose request the
stored reply answered and how many replies were stored before it. -/
structure CtrEntry where
  counters : Int × Int
  call : Nat
  handledAt : Nat
  deriving DecidableEq

/-- Where a caller of `get_nn_counters(p)` stands; `call` numbers the call and `start`
is how many replies had been stored when it started. -/
inductive InfoCaller
  | idle
  | checking (p : Int) (call start : Nat)
  | deleting (p : Int) (call start : Nat)
  | looping (p : Int) (call start : Nat)
  | waiting (p : Int) (call start : Nat)
  | returned (p : Int) (call start : Nat) (r : Option CtrEntry)
  | raised
  deriving DecidableEq

/-- One nanomsg source, its callers, the peer, and the channels between them. -/
structure InfoSys where
  ports : List Int
  nnCounters : Dict Int CtrEntry
  requests : List (Int × Nat)
  replies : List CtrReply
  peer : Int → Int × Int
  handled : List (CtrReply × Nat)
  calls : Nat
  callers : Nat → InfoCaller

/-- One step of one party. -/
inductive InfoAction
  | call (i : Nat) (p : Int)
  | next (i : Nat)
  | timeout (i : Nat)
  | peerReply
  | peerCount (p : Int) (c : Int × Int)
  | recvReply

namespace InfoSys

/-- A source with port set `ports`, nothing cached or in flight. -/
def init (ports : List Int) (peer : Int → Int × Int) : InfoSys :=
  ⟨ports, .empty, [], [], peer, [], 0, fun _ => .idle⟩

/-- Move caller `i` to `c`. -/
def setCaller (s : InfoSys) (i : Nat) (c : InfoCaller) : InfoSys :=
  { s with callers := Function.update s.callers i c }

/-- One step; `none` when the party cannot take it. -/
def step (s : InfoSys) : InfoAction → Option InfoSys
  | .call i p =>
    match s.callers i with
    | .idle => some { s.setCaller i (.checking p s.calls s.handled.length) with calls := s.calls + 1 }
    | _ => none
  | .next i =>
    match s.callers i with
    | .checking p c t =>
      some (s.setCaller i (if p ∈ s.nnCounters.keys then .deleting p c t else .looping p c t))
    | .deleting p c t =>
      if p ∈ s.nnCounters.keys then
        some { s.setCaller i (.looping p c t) with nnCounters := s.nnCounters.erase p }
      else some (s.setCaller i .raised)
    | .looping p c t =>
      if p ∈ s.nnCounters.keys then some (s.setCaller i (.returned p c t (s.nnCounters.get? p)))
      else some { s.setCaller i (.waiting p c t) with requests := s.requests ++ [(p, c)] }
    | .waiting p c t => some (s.setCaller i (.looping p c t))
    | _ => none
  | .timeout i =>
    match s.callers i with
    | .looping p c t => some (s.setCaller i (.returned p c t (s.nnCounters.get? p)))
    | _ => none
  | .peerReply =>
    match s.requests with
    | (p, c) :: rest => some { s with requests := rest, replies := s.replies ++ [⟨p, s.peer p, c⟩] }
    | [] => none
  | .peerCount p c => some { s with peer := Function.update s.peer p c }
  | .recvReply =>
    match s.replies with
    | r :: rest =>
      if r.port ∈ s.ports then
        some { s with
          replies := rest
          nnCounters := s.nnCounters.set r.port ⟨r.counters, r.call, s.handled.length⟩
          handled := s.handled ++ [(r, s.handled.length)] }
      else some { s with replies := rest }
    | [] => none

/-- Run a word of steps. -/
def run (s : InfoSys) : List InfoAction → Option InfoSys
  | [] => some s
  | a :: as => (s.step a).bind fun s' => s'.run as

end InfoSys

/-- The states some interleaving reaches from a fresh source. -/
inductive InfoReachable (ports : List Int) (peer : Int → Int × Int) : InfoSys → Prop
  | init : InfoReachable ports peer (InfoSys.init ports peer)
  | step {s s' : InfoSys} (a : InfoAction) :
      InfoReachable ports peer s → s.step a = some s' → InfoReachable ports peer s'

theorem infoReachable_of_run {ports : List Int} {peer : Int → Int × Int} :
    ∀ {s s' : InfoSys} (as : List InfoAction), InfoReachable ports peer s →
      s.run as = some s' → InfoReachable ports peer s'
  | _, _, [], hs, h => by cases h; exact hs
  | s, _, a :: as, hs, h => by
    simp only [InfoSys.run] at h
    cases ha : s.step a with
    | none => rw [ha] at h; cases h
    | some s₁ =>
      rw [ha] at h
      exact infoReachable_of_run as (InfoReachable.step a hs ha) h

/-- Call `0` sends its request and times out; call `1` finds no entry, sends its own
request and waits; the peer answers call `0`'s request first, the capture loop stores that
reply, and call `1` wakes and returns it. -/
def staleReplyRun : List InfoAction :=
  [.call 0 5, .next 0, .next 0, .next 0, .timeout 0,
    .call 1 5, .next 1, .next 1, .peerReply, .recvReply, .next 1, .next 1]

/-- **A stale reply is returned.**  Along `staleReplyRun`, call `1` returns the counters
of the reply to call `0`'s request. -/
theorem stale_counters_returned :
    ∃ s, InfoReachable [5] (fun _ => (7, 9)) s ∧
      s.callers 1 = .returned 5 1 0 (some ⟨(7, 9), 0, 0⟩) := by
  have h : (InfoSys.init [5] fun _ => (7, 9)).run staleReplyRun = some _ := rfl
  exact ⟨_, infoReachable_of_run _ .init h, rfl⟩

/-! ## What one step can do to the cache -/

namespace InfoSys

/-- The three things a step does to `nn_counters` and the log: nothing, delete one
entry (`del self.nn_counters[p]`), or store a reply read by the capture loop. -/
inductive CacheStep (s s' : InfoSys) : Prop
  | same : s'.nnCounters = s.nnCounters → s'.handled = s.handled → CacheStep s s'
  | erase (p : Int) : s'.nnCounters = s.nnCounters.erase p → s'.handled = s.handled →
      CacheStep s s'
  | store (r : CtrReply) :
      s'.nnCounters = s.nnCounters.set r.port ⟨r.counters, r.call, s.handled.length⟩ →
      s'.handled = s.handled ++ [(r, s.handled.length)] → CacheStep s s'

theorem cacheStep_of_step {s s' : InfoSys} {a : InfoAction} (h : s.step a = some s') :
    CacheStep s s' := by
  cases a <;> simp only [step] at h <;> (repeat' split at h) <;> cases h
  all_goals first
    | exact .same rfl rfl
    | exact .erase _ rfl rfl
    | exact .store _ rfl rfl

end InfoSys

/-! ## Freshness of returned counters -/

/-- `e`, cached for `p`, is the counter pair of a reply for `p` in the log, stored
`e.handledAt`-th. -/
def StoredFor (handled : List (CtrReply × Nat)) (p : Int) (e : CtrEntry) : Prop :=
  ∃ r, (r, e.handledAt) ∈ handled ∧ r.port = p ∧ e.counters = r.counters ∧ e.call = r.call

theorem StoredFor.mono {l l' : List (CtrReply × Nat)} {p : Int} {e : CtrEntry}
    (hl : l <+: l') : StoredFor l p e → StoredFor l' p e
  | ⟨r, hr, h⟩ => ⟨r, hl.subset hr, h⟩

/-- What a caller's position promises: once past its cache check, a call sees for its
port only entries stored after it started, and what it returned is such an entry. -/
def InfoCaller.Fresh (cache : Dict Int CtrEntry) (handled : List (CtrReply × Nat)) :
    InfoCaller → Prop
  | .checking _ _ t | .deleting _ _ t => t ≤ handled.length
  | .looping p _ t | .waiting p _ t =>
    t ≤ handled.length ∧ ∀ e, cache.get? p = some e → t ≤ e.handledAt
  | .returned p _ t r => ∀ e, r = some e → t ≤ e.handledAt ∧ StoredFor handled p e
  | .idle | .raised => True

/-- The invariant of the interleavings: every cache entry is a stored reply for its
port, and every caller keeps its promise. -/
structure InfoInv (s : InfoSys) : Prop where
  stored : ∀ p e, s.nnCounters.get? p = some e → StoredFor s.handled p e
  fresh : ∀ i, (s.callers i).Fresh s.nnCounters s.handled

namespace InfoSys

variable {s s' : InfoSys}

theorem CacheStep.prefix (h : CacheStep s s') : s.handled <+: s'.handled := by
  cases h <;> simp_all

/-- After a step, an entry of the cache was there before or is newer than every reply
logged before. -/
theorem CacheStep.old_or_new (h : CacheStep s s') (p : Int) (e : CtrEntry)
    (he : s'.nnCounters.get? p = some e) :
    s.nnCounters.get? p = some e ∨ s.handled.length ≤ e.handledAt := by
  cases h with
  | same hc _ => exact .inl (hc ▸ he)
  | erase q hc _ =>
    rw [hc, Dict.get?_erase] at he
    split_ifs at he
    exact .inl he
  | store r hc _ =>
    rw [hc, Dict.get?_set] at he
    split_ifs at he
    · cases he; exact .inr le_rfl
    · exact .inl he

theorem CacheStep.stored (h : CacheStep s s') (hinv : InfoInv s) (p : Int) (e : CtrEntry)
    (he : s'.nnCounters.get? p = some e) : StoredFor s'.handled p e := by
  cases h with
  | store r hc hh =>
    rw [hc, Dict.get?_set] at he
    split_ifs at he with hp
    · cases he; exact ⟨r, by simp [hh], hp.symm, rfl, rfl⟩
    · exact (hinv.stored p e he).mono (hh ▸ List.prefix_append _ _)
  | same hc hh => rw [hh]; exact hinv.stored p e (hc ▸ he)
  | erase q hc hh =>
    rw [hc, Dict.get?_erase] at he
    split_ifs at he
    rw [hh]; exact hinv.stored p e he

/-- A caller that does not move keeps its promise across any step. -/
theorem CacheStep.fresh (h : CacheStep s s') (c : InfoCaller)
    (hc : c.Fresh s.nnCounters s.handled) : c.Fresh s'.nnCounters s'.handled := by
  have hl := h.prefix.length_le
  cases c with
  | checking | deleting => exact hc.trans hl
  | looping p _ t | waiting p _ t =>
    exact ⟨hc.1.trans hl, fun e he => (h.old_or_new p e he).elim (hc.2 e) hc.1.trans⟩
  | returned p _ t r =>
    exact fun e he => ⟨(hc e he).1, (hc e he).2.mono h.prefix⟩
  | idle | raised => trivial

end InfoSys

namespace InfoSys

variable {s s' : InfoSys}

theorem eq_of_update_ne {f : Nat → InfoCaller} {i j : Nat} {c : InfoCaller}
    (h : ¬Function.update f i c j = f j) : j = i :=
  by_contra fun hne => h (Function.update_noteq hne c f)

theorem infoInv_init (ports : List Int) (peer : Int → Int × Int) :
    InfoInv (init ports peer) :=
  ⟨fun p e he => by simp [init] at he, fun _ => trivial⟩

/-- One step keeps the invariant: the cache by `CacheStep`, a caller that does not move
by `CacheStep.fresh`, and the caller that moves by its transition. -/
theorem infoInv_step (hinv : InfoInv s) {a : InfoAction} (h : s.step a = some s') :
    InfoInv s' := by
  have hc := cacheStep_of_step h
  refine ⟨hc.stored hinv, fun j => ?_⟩
  by_cases hj : s'.callers j = s.callers j
  · rw [hj]; exact hc.fresh _ (hinv.fresh j)
  have hf := hinv.fresh j
  -- `j` is the caller the step moves; its new promise holds because the promise carries
  -- over (`looping` and `waiting`, `checking` to `deleting`), the call has just started,
  -- a loop pass returns an entry the `looping` promise covers, or the call enters the
  -- loop with no entry for its port (after a failed check, or after the `del`).
  cases a <;> simp only [step] at h <;> (repeat' split at h) <;> cases h <;>
    simp only [setCaller] at hj ⊢
  all_goals first
    | exact absurd trivial hj
    | obtain rfl := eq_of_update_ne hj
      rw [Function.update_same]
      simp only [*, InfoCaller.Fresh] at hf ⊢ <;> first
        | exact hf
        | exact le_rfl
        | exact fun e he => ⟨hf.2 e he, hinv.stored _ e he⟩
        | refine ⟨hf, fun e he => ?_⟩
          first
            | rw [(Dict.get?_eq_none_iff _ _).mpr ‹_›] at he; cases he
            | simp at he

end InfoSys

theorem infoInv_of_reachable {ports : List Int} {peer : Int → Int × Int} {s : InfoSys}
    (hs : InfoReachable ports peer s) : InfoInv s := by
  induction hs with
  | init => exact InfoSys.infoInv_init ports peer
  | step _ _ h ih => exact InfoSys.infoInv_step ih h

/-- **Returned counters are fresh.**  In every interleaving, a value that a call of
`get_nn_counters(p)` returned is the counter pair of a reply for `p` that the capture loop
stored after the call started (`t` replies had been stored then); the reply may answer a
request of another call. -/
theorem returned_counters_fresh {ports : List Int} {peer : Int → Int × Int} {s : InfoSys}
    (hs : InfoReachable ports peer s) {i : Nat} {p : Int} {c t : Nat} {e : CtrEntry}
    (h : s.callers i = .returned p c t (some e)) :
    t ≤ e.handledAt ∧
      ∃ r, (r, e.handledAt) ∈ s.handled ∧ r.port = p ∧ e.counters = r.counters := by
  have hf := (infoInv_of_reachable hs).fresh i
  rw [h] at hf
  obtain ⟨ht, r, hr, hp, hc, -⟩ := hf e rfl
  exact ⟨ht, r, hr, hp, hc⟩

/-- The value returned along `staleReplyRun` was stored after call `1` started. -/
theorem stale_counters_stored_after_call :
    ∃ s, InfoReachable [5] (fun _ => (7, 9)) s ∧
      s.callers 1 = .returned 5 1 0 (some ⟨(7, 9), 0, 0⟩) ∧
      0 ≤ 0 ∧ ∃ r, (r, 0) ∈ s.handled ∧ r.port = 5 ∧ (7, 9) = r.counters := by
  have h : (InfoSys.init [5] fun _ => (7, 9)).run staleReplyRun = some _ := rfl
  obtain ⟨s, hs, hc⟩ : ∃ s, InfoReachable [5] (fun _ => (7, 9)) s ∧
      s.callers 1 = .returned 5 1 0 (some ⟨(7, 9), 0, 0⟩) :=
    ⟨_, infoReachable_of_run _ .init h, rfl⟩
  exact ⟨s, hs, hc, returned_counters_fresh hs hc⟩

end PtfDataplane
