import Mathlib.Data.List.Basic
import Mathlib.Data.List.Pairwise
import Offload.Dispatch.Link
import Offload.Proofs.Run
import Offload.Proofs.Wire.RoundTrip

/-
  A link that a client and a worker share.

  One call at a time has the client; other callers wait for
  their turn. What the client and the worker do in one go is
  an event, and their events come in any order. How long the
  worker takes, what it answers, when a call gives up and
  when the worker ends is left open. Beside the link the
  state has what the worker made of which request, and what
  came of all calls.

  A call whose number would be the last one that there is
  does not go through: drawing it is an overflow.

  Key definitions include:
    * `SharedLink`
    * `SharedLink.Event`
    * `SharedLink.step`
    * `SharedLink.line`
    * `SharedLink.Ordered`

  Main results:
    * `SharedLink.ordered_step`
-/

namespace Offload

------------------------------------------------------------
-- What a Link Does
------------------------------------------------------------

namespace Link

/- What a frame must be for its client to get an answer. -/
theorem judge_answer
    {seq : UInt64}
    {frame : Bytes}
    {a : Response}
    (h : judge seq frame = .answer a) :
    Response.decode frame = .ok a ∧ a.seq = seq := by
  unfold judge at h
  cases hDecode : Response.decode frame with
  | error cause =>
      rw [hDecode] at h
      cases h
  | ok b =>
      simp only [hDecode] at h
      split at h
      · cases h
      · split at h
        · rename_i hSeq
          cases h
          exact ⟨rfl, hSeq⟩
        · cases h

/- An idle worker takes the oldest frame off the queue. -/
theorem take_some
    {l l' : Link}
    {event : Option LogEvent}
    (h : l.take = some (event, l')) :
    ∃ frame rest,
      l.phase = .idle ∧ l.requests = frame :: rest ∧
        ((∃ r,
            Request.decode frame = .ok r ∧
              l' =
                { l with
                  requests := rest
                  phase := .serving r }) ∨
          (∃ cause, Request.decode frame = .error cause) ∧
            l' = { l with requests := rest }) := by
  unfold take at h
  split at h
  · rename_i frame rest hPhase hRequests
    refine ⟨frame, rest, hPhase, hRequests, ?_⟩
    cases hDecode : Request.decode frame with
    | ok r =>
        simp only [hDecode, Option.some.injEq,
          Prod.mk.injEq] at h
        exact Or.inl ⟨r, rfl, h.2.symm⟩
    | error cause =>
        simp only [hDecode, Option.some.injEq,
          Prod.mk.injEq] at h
        exact Or.inr ⟨⟨cause, rfl⟩, h.2.symm⟩
  · cases h

/-
  A worker that served a request is idle again. The answer
  is in the queue unless there is no frame for it.
-/
theorem answer_serving
    {l : Link}
    {r : Request}
    (hPhase : l.phase = .serving r)
    (outcome : Except Status (List Param)) :
    ∃ frames,
      (l.answer outcome).2 =
          { l with
            responses := l.responses ++ frames
            phase := .idle } ∧
        ∀ frame,
          frame ∈ frames ↔
            (responseTo r.seq outcome).encode =
              .ok frame := by
  unfold answer
  rw [hPhase]
  cases hEncode : (responseTo r.seq outcome).encode with
  | ok frame =>
      refine ⟨[frame], by simp only [hEncode], ?_⟩
      intro f
      rw [List.mem_singleton, Except.ok.injEq]
      exact eq_comm
  | error cause =>
      refine ⟨[], by simp only [hEncode, List.append_nil], ?_⟩
      intro f
      constructor
      · intro hf
        cases hf
      · intro hf
        cases hf

@[simp]
theorem responseTo_seq
    (seq : UInt64)
    (outcome : Except Status (List Param)) :
    (responseTo seq outcome).seq = seq := by
  cases outcome <;> rfl

end Link

------------------------------------------------------------
-- States and Events
------------------------------------------------------------

namespace SharedLink

/- What a service makes of a request. -/
abbrev Outcome := Except Status (List Param)

/- How far the call has come that has the client. -/
inductive Client where
  | idle
  | sending (r : Request) (frame : Bytes)
  | waiting (r : Request)

/- The request of the call that has the client. -/
def Client.request? : Client → Option Request
  | .idle => none
  | .sending r _ => some r
  | .waiting r => some r

/-
  What the client or the worker does in one go. A call can
  lose the worker at any time, and give up at any time while
  it waits for its answer.
-/
inductive Event where
  | call (r : Request)
  | send
  | receive
  | expire
  | lose
  | take
  | answer (outcome : Outcome)
  | stop

end SharedLink

/-
  A link with the call that has its client, all requests
  that were served with what was made of them, and all calls
  that came to an end with what came of them; newest first.
-/
structure SharedLink where
  link : Link
  client : SharedLink.Client
  served : List (Request × SharedLink.Outcome)
  results : List (Request × Except DispatchError Response)

namespace SharedLink

/- A link that nobody has used. -/
def fresh : SharedLink :=
  ⟨Link.fresh, .idle, [], []⟩

/- Whether there is a number for another call. -/
def HasNumber
    (l : Link) : Prop :=
  l.nextSeq.toNat + 1 < Word.limit

instance
    (l : Link) : Decidable (HasNumber l) :=
  inferInstanceAs (Decidable (_ < _))

/- The call that has the client comes to an end. -/
def finish
    (r : Request)
    (result : Except DispatchError Response)
    (s : SharedLink) : SharedLink :=
  { s with
    client := .idle
    results := (r, result) :: s.results }

/- A request with the next number of a link. -/
def withNumber
    (r : Request)
    (l : Link) : Request :=
  { r with seq := l.number.1 }

/- Begin a call: number the request and make its frame. -/
def call
    (r : Request)
    (s : SharedLink) : SharedLink :=
  match s.client with
  | .idle =>
    if HasNumber s.link then
      match (withNumber r s.link).encode with
      | .ok frame =>
        { s with
          link := s.link.number.2
          client := .sending (withNumber r s.link) frame }
      | .error cause =>
        finish (withNumber r s.link) (.error cause)
          { s with link := s.link.number.2 }
    else
      s
  | _ => s

/- Send the frame of a call, if there is room for it. -/
def send
    (s : SharedLink) : SharedLink :=
  match s.client with
  | .sending r frame =>
    if !s.link.hasEnded && s.link.hasRoom then
      { s with
        link := s.link.send frame
        client := .waiting r }
    else
      s
  | _ => s

/- Receive a frame, if there is one, and judge it. -/
def receive
    (s : SharedLink) : SharedLink :=
  match s.client with
  | .waiting r =>
    match s.link.receive with
    | (some frame, link) =>
      match Link.judge r.seq frame with
      | .answer a => finish r (.ok a) { s with link := link }
      | .stale _ => { s with link := link }
      | .lost =>
        finish r (.error .messageLost) { s with link := link }
    | (none, _) => s
  | _ => s

/- Stop waiting for an answer. -/
def expire
    (s : SharedLink) : SharedLink :=
  match s.client with
  | .waiting r => finish r (.error .timeout) s
  | _ => s

/- Find that the worker is gone. -/
def lose
    (s : SharedLink) : SharedLink :=
  match s.client.request? with
  | some r => finish r (.error .messageLost) s
  | none => s

/- Let the worker take a request. -/
def take
    (s : SharedLink) : SharedLink :=
  match s.link.take with
  | some (_, link) => { s with link := link }
  | none => s

/- Let the worker answer the request that it serves. -/
def answer
    (outcome : Outcome)
    (s : SharedLink) : SharedLink :=
  match s.link.phase with
  | .serving r =>
    { s with
      link := (s.link.answer outcome).2
      served := (r, outcome) :: s.served }
  | _ => s

/- The state when only some answers are left in the queue. -/
def withResponses
    (rest : List Bytes)
    (s : SharedLink) : SharedLink :=
  { s with link := { s.link with responses := rest } }

/- The state after an event. -/
def step
    (e : Event)
    (s : SharedLink) : SharedLink :=
  match e with
  | .call r => s.call r
  | .send => s.send
  | .receive => s.receive
  | .expire => s.expire
  | .lose => s.lose
  | .take => s.take
  | .answer outcome => s.answer outcome
  | .stop => { s with link := s.link.stop }

------------------------------------------------------------
-- Requests in Line
------------------------------------------------------------

/- The request that is still to be sent. -/
def Client.unsent : Client → List Request
  | .sending r _ => [r]
  | _ => []

/- The requests in a queue, the oldest in front. -/
def queued
    (frames : List Bytes) : List Request :=
  frames.filterMap fun f => (Request.decode f).toOption

/- The request that a worker serves. -/
def inService : LinkPhase → List Request
  | .serving r => [r]
  | _ => []

/-
  All requests on their way through a link: to be sent, in
  the queue, being served, and served; the newest in front.
-/
def line
    (s : SharedLink) : List Request :=
  s.client.unsent ++ (queued s.link.requests).reverse ++
    inService s.link.phase ++ s.served.map Prod.fst

@[simp]
theorem queued_append
    {frame : Bytes}
    {r : Request}
    (h : Request.decode frame = .ok r)
    (frames : List Bytes) :
    queued (frames ++ [frame]) = queued frames ++ [r] := by
  simp [queued, h, Except.toOption]

@[simp]
theorem queued_cons
    {frame : Bytes}
    {r : Request}
    (h : Request.decode frame = .ok r)
    (frames : List Bytes) :
    queued (frame :: frames) = r :: queued frames := by
  simp [queued, h, Except.toOption]

/-
  Requests go through a link in the order of their numbers.
  Whoever has the client has the newest request. Every frame
  on its way back is the answer to a request that was
  served.
-/
structure Ordered
    (s : SharedLink) : Prop where
  readable :
    ∀ frame ∈ s.link.requests,
      ∃ r, Request.decode frame = .ok r
  framed :
    ∀ r frame, s.client = .sending r frame →
      Request.decode frame = .ok r
  falling :
    s.line.Pairwise fun q r => r.seq.toNat < q.seq.toNat
  numbered :
    ∀ r ∈ s.line, r.seq.toNat < s.link.nextSeq.toNat
  newest :
    ∀ r, s.client.request? = some r →
      r.seq.toNat < s.link.nextSeq.toNat ∧
        ∀ q ∈ s.line, q = r ∨ q.seq.toNat < r.seq.toNat
  answered :
    ∀ frame ∈ s.link.responses,
      ∃ q outcome,
        (q, outcome) ∈ s.served ∧
          Response.decode frame =
            .ok (Link.responseTo q.seq outcome)

theorem ordered_fresh : fresh.Ordered where
  readable := by
    intro frame hFrame
    cases hFrame
  framed := by
    intro r frame hClient
    cases hClient
  falling := List.Pairwise.nil
  numbered := by
    intro r hr
    cases hr
  newest := by
    intro r hr
    cases hr
  answered := by
    intro frame hFrame
    cases hFrame

/-
  What only takes requests out of the line, or moves them on
  in it, keeps its order.
-/
theorem Ordered.shrink
    {s s' : SharedLink}
    (h : s.Ordered)
    (hReadable :
      ∀ frame ∈ s'.link.requests,
        ∃ r, Request.decode frame = .ok r)
    (hFramed :
      ∀ r frame, s'.client = .sending r frame →
        Request.decode frame = .ok r)
    (hLine : s'.line.Sublist s.line)
    (hNext : s'.link.nextSeq = s.link.nextSeq)
    (hClient :
      ∀ r, s'.client.request? = some r →
        s.client.request? = some r)
    (hAnswered :
      ∀ frame ∈ s'.link.responses,
        ∃ q outcome,
          (q, outcome) ∈ s'.served ∧
            Response.decode frame =
              .ok (Link.responseTo q.seq outcome)) :
    s'.Ordered where
  readable := hReadable
  framed := hFramed
  falling := h.falling.sublist hLine
  numbered := by
    intro r hr
    rw [hNext]
    exact h.numbered r (hLine.subset hr)
  newest := by
    intro r hr
    rcases h.newest r (hClient r hr) with ⟨hBelow, hNewest⟩
    rw [hNext]
    exact ⟨hBelow, fun q hq => hNewest q (hLine.subset hq)⟩
  answered := hAnswered

/- The next number is larger than the one before. -/
theorem toNat_next
    {l : Link}
    (h : HasNumber l) :
    (l.nextSeq + 1).toNat = l.nextSeq.toNat + 1 := by
  unfold HasNumber Word.limit at h
  rw [UInt64.toNat_add]
  change (l.nextSeq.toNat + 1) % 2 ^ 64 = _
  omega

/- A new request is the first one in line. -/
theorem Ordered.enqueue
    {s : SharedLink}
    (h : s.Ordered)
    (hIdle : s.client = .idle)
    (hNumber : HasNumber s.link)
    {r : Request}
    {frame : Bytes}
    (hEncode : (withNumber r s.link).encode = .ok frame) :
    { s with
      link := s.link.number.2
      client := .sending (withNumber r s.link) frame }.Ordered := by
  have hNext := toNat_next hNumber
  have hLine :
      { s with
        link := s.link.number.2
        client := .sending (withNumber r s.link) frame }.line =
      withNumber r s.link :: s.line := by
    simp [line, Client.unsent, hIdle, Link.number]
  refine ⟨h.readable, ?_, ?_, ?_, ?_, h.answered⟩
  · intro q f hClient
    cases hClient
    exact Request.decode_encode hEncode
  · rw [hLine]
    exact List.Pairwise.cons h.numbered h.falling
  · rw [hLine]
    change ∀ q ∈ withNumber r s.link :: s.line,
      q.seq.toNat < (s.link.nextSeq + 1).toNat
    rw [hNext]
    intro q hq
    rcases List.mem_cons.mp hq with rfl | hOld
    · exact Nat.lt_succ_self _
    · exact Nat.lt_succ_of_lt (h.numbered q hOld)
  · rw [hLine]
    intro q hq
    cases hq
    change s.link.nextSeq.toNat < (s.link.nextSeq + 1).toNat ∧
      ∀ q ∈ withNumber r s.link :: s.line,
        q = withNumber r s.link ∨
          q.seq.toNat < s.link.nextSeq.toNat
    rw [hNext]
    refine ⟨Nat.lt_succ_self _, ?_⟩
    intro q hq
    rcases List.mem_cons.mp hq with rfl | hOld
    · exact Or.inl rfl
    · exact Or.inr (h.numbered q hOld)

theorem Ordered.send
    {s : SharedLink}
    (h : s.Ordered) : s.send.Ordered := by
  unfold SharedLink.send
  cases hClient : s.client with
  | sending r frame =>
      dsimp only
      split
      · have hDecode := h.framed r frame hClient
        have hLine :
            { s with
              link := s.link.send frame
              client := .waiting r }.line = s.line := by
          simp [line, Client.unsent, hClient, Link.send,
            queued_append hDecode]
        apply h.shrink
        · intro f hf
          rcases List.mem_append.mp hf with hOld | hNew
          · exact h.readable f hOld
          · rw [List.mem_singleton.mp hNew]
            exact ⟨r, hDecode⟩
        · intro q f hq
          cases hq
        · rw [hLine]
        · rfl
        · intro q hq
          rw [hClient]
          exact hq
        · exact h.answered
      · exact h
  | _ => exact h

/- The end of a call takes nothing on but its request. -/
theorem Ordered.finish
    {s : SharedLink}
    (h : s.Ordered)
    (r : Request)
    (result : Except DispatchError Response) :
    (s.finish r result).Ordered := by
  apply h.shrink
  · exact h.readable
  · intro q f hq
    cases hq
  · simp only [line, SharedLink.finish, Client.unsent,
      List.append_assoc, List.nil_append]
    exact List.sublist_append_right _ _
  · rfl
  · intro q hq
    cases hq
  · exact h.answered

/- Taking a frame off the answers leaves the line alone. -/
theorem Ordered.withResponses
    {s : SharedLink}
    (h : s.Ordered)
    {frame : Bytes}
    {rest : List Bytes}
    (hResponses : s.link.responses = frame :: rest) :
    (s.withResponses rest).Ordered := by
  refine
    ⟨h.readable, h.framed, h.falling, h.numbered, h.newest,
      ?_⟩
  intro f hf
  apply h.answered f
  rw [hResponses]
  exact List.mem_cons_of_mem frame hf

/- What comes of a frame that a call receives. -/
theorem receive_cons
    {s : SharedLink}
    {r : Request}
    {frame : Bytes}
    {rest : List Bytes}
    (hClient : s.client = .waiting r)
    (hResponses : s.link.responses = frame :: rest) :
    s.receive =
      match Link.judge r.seq frame with
      | .answer a => (s.withResponses rest).finish r (.ok a)
      | .stale _ => s.withResponses rest
      | .lost =>
        (s.withResponses rest).finish r
          (.error .messageLost) := by
  rcases s with ⟨l, client, served, results⟩
  cases hClient
  change l.responses = frame :: rest at hResponses
  simp only [SharedLink.receive, Link.receive, hResponses]
  rfl

/- Without a frame or a call for it nothing happens. -/
theorem receive_cases
    (s : SharedLink) :
    s.receive = s ∨
      ∃ r frame rest,
        s.client = .waiting r ∧
          s.link.responses = frame :: rest := by
  cases hClient : s.client with
  | waiting r =>
      cases hResponses : s.link.responses with
      | nil =>
          apply Or.inl
          simp [SharedLink.receive, hClient, Link.receive,
            hResponses]
      | cons frame rest =>
          exact Or.inr ⟨r, frame, rest, rfl, rfl⟩
  | _ =>
      apply Or.inl
      simp [SharedLink.receive, hClient]

theorem Ordered.receive
    {s : SharedLink}
    (h : s.Ordered) : s.receive.Ordered := by
  rcases receive_cases s with
    hSame | ⟨r, frame, rest, hClient, hResponses⟩
  · rw [hSame]
    exact h
  · have hRest := h.withResponses hResponses
    rw [receive_cons hClient hResponses]
    cases Link.judge r.seq frame with
    | answer a => exact hRest.finish r (.ok a)
    | stale seq => exact hRest
    | lost => exact hRest.finish r (.error .messageLost)

theorem Ordered.take
    {s : SharedLink}
    (h : s.Ordered) : s.take.Ordered := by
  unfold SharedLink.take
  cases hTake : s.link.take with
  | none => exact h
  | some taken =>
      rcases taken with ⟨event, l⟩
      rcases Link.take_some hTake with
        ⟨frame, rest, hPhase, hRequests, hKind⟩
      rcases hKind with
        ⟨r, hDecode, rfl⟩ | ⟨⟨cause, hUndecodable⟩, _⟩
      · have hLine :
            { s with
              link :=
                { s.link with
                  requests := rest
                  phase := .serving r } }.line =
              s.line := by
          simp [line, hPhase, hRequests, inService,
            queued_cons hDecode]
        apply h.shrink
        · intro f hf
          apply h.readable f
          rw [hRequests]
          exact List.mem_cons_of_mem frame hf
        · exact h.framed
        · rw [hLine]
        · rfl
        · exact fun q hq => hq
        · exact h.answered
      · rcases h.readable frame
            (by rw [hRequests]; exact List.mem_cons_self) with
          ⟨r, hDecode⟩
        rw [hUndecodable] at hDecode
        cases hDecode

theorem Ordered.answer
    {s : SharedLink}
    (h : s.Ordered)
    (outcome : Outcome) : (s.answer outcome).Ordered := by
  unfold SharedLink.answer
  cases hPhase : s.link.phase with
  | serving r =>
      dsimp only
      rcases Link.answer_serving hPhase outcome with
        ⟨frames, hAnswer, hFrames⟩
      rw [hAnswer]
      have hLine :
          { s with
            link :=
              { s.link with
                responses := s.link.responses ++ frames
                phase := .idle }
            served := (r, outcome) :: s.served }.line =
            s.line := by
        simp [line, hPhase, inService]
      apply h.shrink
      · exact h.readable
      · exact h.framed
      · rw [hLine]
      · rfl
      · exact fun q hq => hq
      · intro f hf
        rcases List.mem_append.mp hf with hOld | hNew
        · rcases h.answered f hOld with
            ⟨q, o, hServed, hDecode⟩
          exact
            ⟨q, o, List.mem_cons_of_mem _ hServed, hDecode⟩
        · exact
            ⟨r, outcome, List.mem_cons_self,
              Response.decode_encode
                ((hFrames f).mp hNew)⟩
  | _ => exact h

/- A worker that ends takes waiting requests with it. -/
theorem Ordered.stop
    {s : SharedLink}
    (h : s.Ordered) :
    { s with link := s.link.stop }.Ordered := by
  apply h.shrink
  · intro f hf
    cases hf
  · exact h.framed
  · simp only [line, Link.stop, queued, List.filterMap_nil,
      List.reverse_nil, List.append_nil, inService,
      List.append_assoc]
    apply List.Sublist.append_left
    exact
      (List.sublist_append_right _ _).trans
        (List.sublist_append_right _ _)
  · rfl
  · exact fun q hq => hq
  · exact h.answered

/- A number can be drawn in vain. -/
theorem Ordered.skip
    {s : SharedLink}
    (h : s.Ordered)
    (hIdle : s.client = .idle)
    (hNumber : HasNumber s.link) :
    { s with link := s.link.number.2 }.Ordered := by
  have hNext := toNat_next hNumber
  refine ⟨h.readable, h.framed, h.falling, ?_, ?_, h.answered⟩
  · change ∀ q ∈ s.line,
      q.seq.toNat < (s.link.nextSeq + 1).toNat
    intro q hq
    have hBelow := h.numbered q hq
    omega
  · intro q hq
    simp [hIdle, Client.request?] at hq

/- What comes of a call that has its turn. -/
theorem call_idle
    {s : SharedLink}
    (hIdle : s.client = .idle)
    (hNumber : HasNumber s.link)
    (r : Request) :
    s.call r =
      match (withNumber r s.link).encode with
      | .ok frame =>
        { s with
          link := s.link.number.2
          client := .sending (withNumber r s.link) frame }
      | .error cause =>
        finish (withNumber r s.link) (.error cause)
          { s with link := s.link.number.2 } := by
  unfold SharedLink.call
  split
  · rw [if_pos hNumber]
  · rename_i hBusy
    exact absurd hIdle hBusy

/- Without its turn or a number no call begins. -/
theorem call_cases
    (r : Request)
    (s : SharedLink) :
    s.call r = s ∨ s.client = .idle ∧ HasNumber s.link := by
  unfold SharedLink.call
  split
  · rename_i hIdle
    by_cases hNumber : HasNumber s.link
    · exact Or.inr ⟨hIdle, hNumber⟩
    · exact Or.inl (if_neg hNumber)
  · exact Or.inl rfl

theorem Ordered.call
    {s : SharedLink}
    (h : s.Ordered)
    (r : Request) : (s.call r).Ordered := by
  rcases call_cases r s with hSame | ⟨hIdle, hNumber⟩
  · rw [hSame]
    exact h
  · rw [call_idle hIdle hNumber]
    cases hEncode : (withNumber r s.link).encode with
    | ok frame => exact h.enqueue hIdle hNumber hEncode
    | error cause => exact (h.skip hIdle hNumber).finish _ _

theorem ordered_step
    {s : SharedLink}
    (e : Event)
    (h : s.Ordered) : (step e s).Ordered := by
  cases e with
  | call r => exact h.call r
  | send => exact h.send
  | receive => exact h.receive
  | expire =>
      simp only [step, expire]
      cases s.client with
      | waiting r => exact h.finish r (.error .timeout)
      | _ => exact h
  | lose =>
      simp only [step, lose]
      cases s.client.request? with
      | some r => exact h.finish r (.error .messageLost)
      | none => exact h
  | take => exact h.take
  | answer outcome => exact h.answer outcome
  | stop => exact h.stop

end SharedLink

end Offload
