import Mathlib.Logic.Function.Basic
import RoverKernel.Proofs.RadioRequests

/-!
# The radio over any run

Requests delivered to the radio, data arriving on its sockets and a host draining its logs
may come in any order.  Over every such run, from a new radio:

* each open socket sits in the slot of its own number, so the open sockets are listed in
  ascending order, at most five; a connection takes the lowest free slot, and is refused
  with `NoFreeSocket` exactly when all five are taken;
* the sent log holds the last 64 frames sent since it was last taken, oldest first, and the
  send counter counts every frame ever sent; the received log likewise holds the last 64
  chunks collected since it was last taken, none of them empty;
* on each socket, the chunks collected during its session followed by the data still waiting
  are exactly the data that arrived during the session.

The proof follows a ghost beside the radio (`RadioGhost`) that records, from the documented
behaviour of each call alone, the frames sent, the chunks collected, and per slot the data
that arrived and the chunks collected since the slot was last freed.  A slot is free between
a close and the next connection, and no data arrives on a free slot, so that is the data of
the slot's session.

* `RadioState.slot`                  the socket open in a slot;
* `RadioState.serve`                 the state after a request, with one lemma per service;
* `RadioGhost.record`                the ghost's step, read off the documented behaviour;
* `RadioState.Table`, `RadioState.Logs`   the invariant between the state and the ghost, with
                                     one lemma per kind of change that keeps it;
* `RadioRun.step_tracks`, `RadioRun.run_tracks`   every call keeps it, so every run does;
* `radio_sockets_and_logs`, `radio_sessions_conserve_data`   the two main statements.
-/

namespace RoverKernel

/-- frames a log keeps of a history: the last `maxRetainedFrames`, oldest first -/
def lastFrames (xs : List Frame) : List Frame := xs.drop (xs.length - maxRetainedFrames)

theorem length_lastFrames (xs : List Frame) :
    (lastFrames xs).length = min xs.length maxRetainedFrames := by
  simp only [lastFrames, List.length_drop]
  omega

theorem lastFrames_suffix (xs : List Frame) : lastFrames xs <:+ xs := List.drop_suffix _ _

/-- appending to a log that holds the last frames of a history keeps the last frames of the
history one frame longer -/
theorem retainFrame_lastFrames (xs : List Frame) (f : Frame) :
    retainFrame (lastFrames xs) f = lastFrames (xs ++ [f]) := by
  have hlen := length_lastFrames xs
  unfold retainFrame
  split
  · -- a full log drops its oldest frame
    rename_i hfull
    simp only [maxRetainedFrames] at hfull hlen
    have hdrop : (xs ++ [f]).length - maxRetainedFrames = xs.length - maxRetainedFrames + 1 := by
      simp only [List.length_append, List.length_singleton, maxRetainedFrames]
      omega
    have hle : xs.length - maxRetainedFrames + 1 ≤ xs.length := by
      simp only [maxRetainedFrames]
      omega
    rw [lastFrames, lastFrames, hdrop, List.tail_drop, List.drop_append_of_le_length hle]
  · -- a log not yet full holds the whole history
    rename_i hfree
    have hdrop : (xs ++ [f]).length - maxRetainedFrames = xs.length - maxRetainedFrames := by
      simp only [List.length_append, List.length_singleton, maxRetainedFrames] at hfree hlen ⊢
      omega
    rw [lastFrames, lastFrames, hdrop, List.drop_append_of_le_length (by omega)]

namespace RadioState

/-! ## slots -/

/-- the socket open in slot `i`, if any -/
def slot (s : RadioState) (i : Nat) : Option Socket := s.sockets[i]?.join

theorem slot_eq_toList (s : RadioState) (i : Nat) : s.slot i = s.sockets.toList[i]?.join := by
  rw [slot, Vector.getElem?_toList]

theorem socket_eq_ok_iff {s : RadioState} {i : Nat} {sock : Socket} :
    s.socket i = .ok sock ↔ s.slot i = some sock := by
  unfold socket slot
  rcases h : s.sockets[i]? with _ | _ | sock' <;> simp

theorem socket_of_slot_none {s : RadioState} {i : Nat} (h : s.slot i = none) :
    s.socket i = .error (.noSuchSocket i) := by
  unfold socket
  unfold slot at h
  rcases hs : s.sockets[i]? with _ | _ | sock' <;> simp_all

/-- writing a slot changes that slot alone, if it exists -/
theorem slot_of_set {s s' : RadioState} {j : Nat} {o : Option Socket}
    (hs : s'.sockets = s.sockets.setIfInBounds j o) (i : Nat) :
    s'.slot i = if j = i ∧ j < maxSockets then o else s.slot i := by
  unfold slot
  rw [hs, Vector.getElem?_setIfInBounds]
  by_cases hji : j = i
  · subst hji
    by_cases hj : j < maxSockets <;> simp [hj]
  · simp [hji]

theorem lt_of_slot_eq_some {s : RadioState} {i : Nat} {sock : Socket} (h : s.slot i = some sock) :
    i < maxSockets := by
  by_contra hle
  rw [slot, Vector.getElem?_eq_none (Nat.le_of_not_lt hle)] at h
  cases h

/-- a new radio has every slot free -/
theorem slot_new (i : Nat) : ({} : RadioState).slot i = none := by
  simp only [slot, Vector.getElem?_replicate]
  split <;> rfl

theorem slot_of_lt_length {s : RadioState} {i : Nat} (h : i < s.sockets.toList.length) :
    s.slot i = s.sockets.toList[i] := by
  simp [slot_eq_toList, List.getElem?_eq_getElem h]

/-- the slot CONNECT_TCP looks for is the first free one -/
theorem findIdx?_isNone_eq_some_iff {s : RadioState} {i : Nat} :
    s.sockets.toList.findIdx? (·.isNone) = some i ↔
      i < maxSockets ∧ s.slot i = none ∧ ∀ j < i, (s.slot j).isSome := by
  rw [List.findIdx?_eq_some_iff_getElem]
  constructor
  · rintro ⟨hlt, hfree, hbelow⟩
    refine ⟨by rwa [Vector.length_toList] at hlt, by simpa [slot_of_lt_length hlt] using hfree,
      fun j hj => ?_⟩
    simpa [slot_of_lt_length (Nat.lt_trans hj hlt), Option.isSome_iff_ne_none] using hbelow j hj
  · rintro ⟨hlt, hfree, hbelow⟩
    have hlt' : i < s.sockets.toList.length := by rwa [Vector.length_toList]
    refine ⟨hlt', by simpa [slot_of_lt_length hlt'] using hfree, fun j hj => ?_⟩
    simpa [slot_of_lt_length (Nat.lt_trans hj hlt'), Option.isSome_iff_ne_none] using hbelow j hj

/-- CONNECT_TCP finds no free slot exactly when every slot is taken -/
theorem findIdx?_isNone_eq_none_iff {s : RadioState} :
    s.sockets.toList.findIdx? (·.isNone) = none ↔ ∀ i < maxSockets, (s.slot i).isSome := by
  rw [List.findIdx?_eq_none_iff]
  constructor
  · intro h i hi
    have hi' : i < s.sockets.toList.length := by rwa [Vector.length_toList]
    simpa [slot_of_lt_length hi'] using h _ (List.getElem_mem hi')
  · intro h o ho
    obtain ⟨i, hi, rfl⟩ := List.mem_iff_getElem.mp ho
    simpa [slot_of_lt_length hi] using h i (by rwa [Vector.length_toList] at hi)

/-! ## the open sockets -/

/-- sockets that each sit at their own index, counted from `k`, have ascending identifiers,
none below `k` -/
theorem filterMap_id_pairwise (l : List (Option Socket)) (k : Nat)
    (h : ∀ i sock, l[i]? = some (some sock) → sock.id = k + i) :
    (∀ x ∈ l.filterMap (·.map (·.id)), k ≤ x) ∧
      (l.filterMap (·.map (·.id))).Pairwise (· < ·) := by
  induction l generalizing k with
  | nil => simp
  | cons o l ih =>
    have htail : ∀ i sock, l[i]? = some (some sock) → sock.id = (k + 1) + i := by
      intro i sock hi
      have := h (i + 1) sock (by simpa using hi)
      omega
    obtain ⟨hge, hpw⟩ := ih (k + 1) htail
    cases o with
    | none =>
      simp only [List.filterMap_cons, Option.map_none]
      exact ⟨fun x hx => Nat.le_of_succ_le (hge x hx), hpw⟩
    | some sock =>
      -- the socket at the head has identifier `k`, below every one after it
      have hid : sock.id = k := by simpa using h 0 sock rfl
      simp only [List.filterMap_cons, Option.map_some, List.mem_cons, List.pairwise_cons, hid]
      refine ⟨?_, fun x hx => hge x hx, hpw⟩
      rintro x (rfl | hx)
      · exact Nat.le_refl x
      · exact Nat.le_of_succ_le (hge x hx)

section
variable {s : RadioState} (hid : ∀ i sock, s.slot i = some sock → sock.id = i)
include hid

/-- with each socket in the slot of its number, the open sockets are listed in ascending
order -/
theorem openSockets_pairwise : s.openSockets.Pairwise (· < ·) := by
  refine (filterMap_id_pairwise s.sockets.toList 0 fun i sock hi => ?_).2
  rw [Nat.zero_add]
  exact hid i sock (by simp [slot_eq_toList, hi])

/-- ... and they are the numbers of the occupied slots -/
theorem mem_openSockets {i : Nat} : i ∈ s.openSockets ↔ (s.slot i).isSome := by
  simp only [openSockets, List.mem_filterMap, Option.map_eq_some_iff]
  constructor
  · rintro ⟨o, ho, sock, rfl, rfl⟩
    obtain ⟨j, hj, hget⟩ := List.mem_iff_getElem.mp ho
    have hslot : s.slot j = some sock := by rw [slot_of_lt_length hj, hget]
    rw [hid j sock hslot, hslot]
    rfl
  · intro hi
    obtain ⟨sock, hsock⟩ := Option.isSome_iff_exists.mp hi
    have hlt : i < s.sockets.toList.length := by
      rw [Vector.length_toList]
      exact lt_of_slot_eq_some hsock
    exact ⟨_, List.getElem_mem hlt, sock, by rw [← slot_of_lt_length hlt, hsock], hid i sock hsock⟩

end

/-! ## serving a request -/

/-- the state after a request: the new state when the service succeeds, otherwise the same -/
def serve (s : RadioState) (service : Nat) (r : ArgReader) : RadioState :=
  match Radio.run s service r with
  | some (.ok s') => s'
  | _ => s

theorem serve_of_ok {s s' : RadioState} {service : Nat} {r : ArgReader}
    (h : Radio.run s service r = some (.ok s')) : s.serve service r = s' := by
  rw [serve, h]

theorem serve_of_error {s : RadioState} {service : Nat} {r : ArgReader} {f : RadioFault}
    (h : Radio.run s service r = some (.error f)) : s.serve service r = s := by
  rw [serve, h]

/-- TCP_SERVER changes the server port and nothing else -/
theorem serve_server (s : RadioState) (r : ArgReader) :
    s.serve 0 r = { s with serverPort := (s.serve 0 r).serverPort } := by
  unfold serve
  simp only [Radio.run, tcpServer, bind, Except.bind]
  rcases hb : r.readBool with e | ⟨enable, r'⟩
  · rfl
  · cases enable
    · rfl
    · simp only [liftRadioArgs_ok, if_true]
      rcases hp : r'.readU16 with e | ⟨port, r''⟩ <;> rfl

/-- CONNECT_TCP opens the first free slot -/
theorem connect_of_free {s : RadioState} {r r' : ArgReader} {req : ConnectRequest}
    (hd : ConnectRequest.decode r = .ok (req, r')) {i : Nat}
    (hi : s.sockets.toList.findIdx? (·.isNone) = some i) :
    s.connect r =
      .ok { s with sockets := s.sockets.setIfInBounds i (some ⟨i, req.ip, req.port, []⟩) } := by
  simp only [connect, hd, hi, bind, Except.bind, pure, Except.pure]

/-- with no slot free, a request that reads is refused with `NoFreeSocket` -/
theorem connect_of_full {s : RadioState} {r r' : ArgReader} {req : ConnectRequest}
    (hd : ConnectRequest.decode r = .ok (req, r')) (hi : s.sockets.toList.findIdx? (·.isNone) = none) :
    s.connect r = .error .noFreeSocket := by
  simp only [connect, hd, hi, bind, Except.bind, throw, throwThe, MonadExceptOf.throw]

theorem connect_of_decode_error {s : RadioState} {r : ArgReader} {f : RadioFault}
    (hd : ConnectRequest.decode r = .error f) : s.connect r = .error f := by
  simp only [connect, hd, bind, Except.bind]

theorem serve_send (s : RadioState) (b : UInt8) (d : List UInt8) :
    s.serve 2 ⟨b :: d⟩ =
      match s.slot b.toNat with
      | some _ => { s with framesSent := s.framesSent + 1, sent := retainFrame s.sent (b.toNat, d) }
      | none => s := by
  unfold serve
  simp only [Radio.run, send_cons]
  cases h : s.slot b.toNat with
  | none => rw [socket_of_slot_none h]; rfl
  | some sock => rw [socket_eq_ok_iff.mpr h]; rfl

/-- RECEIVE empties the socket's inbound data and logs it, unless there is none -/
theorem serve_receive (s : RadioState) (b : UInt8) (rest : List UInt8) :
    s.serve 3 ⟨b :: rest⟩ =
      match s.slot b.toNat with
      | some sock =>
        if sock.inbound = [] then s
        else { s with
          sockets := s.sockets.setIfInBounds b.toNat (some { sock with inbound := [] })
          received := retainFrame s.received (b.toNat, sock.inbound) }
      | none => s := by
  unfold serve
  simp only [Radio.run, receive, ArgReader.readU8_cons, liftRadioArgs_ok, bind, Except.bind]
  cases h : s.slot b.toNat with
  | none => rw [socket_of_slot_none h]
  | some sock =>
    rw [socket_eq_ok_iff.mpr h]
    by_cases hin : sock.inbound = []
    · -- the slot is written with the socket it already holds
      have hget : s.sockets.toList[b.toNat]? = some (some sock) := by
        rw [slot_eq_toList] at h
        rcases hs : s.sockets.toList[b.toNat]? with _ | _ | sock' <;> simp_all
      obtain ⟨hlt, hsock⟩ := List.getElem?_eq_some_iff.mp hget
      have hself : { sock with inbound := [] } = sock := by rw [← hin]
      have hkeep : s.sockets.setIfInBounds b.toNat (some sock) = s.sockets := by
        rw [← Vector.toList_inj, Vector.toList_setIfInBounds, ← hsock, List.set_getElem_self hlt]
      simp only [hin, List.isEmpty_nil, if_true, hself, hkeep, pure, Except.pure]
    · simp only [List.isEmpty_iff, hin, if_false, pure, Except.pure]

/-- CLOSE_TCP frees the socket's slot -/
theorem serve_close (s : RadioState) (b : UInt8) (rest : List UInt8) :
    s.serve 4 ⟨b :: rest⟩ =
      match s.slot b.toNat with
      | some _ => { s with sockets := s.sockets.setIfInBounds b.toNat none }
      | none => s := by
  unfold serve
  simp only [Radio.run, close, ArgReader.readU8_cons, liftRadioArgs_ok, bind, Except.bind]
  cases h : s.slot b.toNat with
  | none => rw [socket_of_slot_none h]
  | some sock => rw [socket_eq_ok_iff.mpr h]; rfl

/-- every service fails on an empty payload -/
theorem serve_nil (s : RadioState) (service : Nat) : s.serve service ⟨[]⟩ = s := by
  rcases service with _ | _ | _ | _ | _ | n <;> rfl

/-- an unknown service is ignored -/
theorem serve_unknown (s : RadioState) (n : Nat) (r : ArgReader) : s.serve (n + 5) r = s := rfl

end RadioState

/-! ## the ghost -/

/-- what the calls so far, read by the documented behaviour of each, say the radio holds -/
structure RadioGhost where
  /-- frames sent since the sent log was last taken -/
  sent : List Frame := []
  /-- frames sent since the radio was made -/
  sends : Nat := 0
  /-- chunks collected since the received log was last taken -/
  received : List Frame := []
  /-- per slot, the data that arrived since the slot was last freed -/
  arrived : Nat → List UInt8 := fun _ => []
  /-- per slot, the chunks collected since the slot was last freed -/
  collected : Nat → List (List UInt8) := fun _ => []

namespace RadioGhost

/-- a frame sent -/
def send (g : RadioGhost) (f : Frame) : RadioGhost :=
  { g with sent := g.sent ++ [f], sends := g.sends + 1 }

/-- data arriving on socket `i` -/
def arrive (g : RadioGhost) (i : Nat) (d : List UInt8) : RadioGhost :=
  { g with arrived := Function.update g.arrived i (g.arrived i ++ d) }

/-- a chunk collected from socket `i` -/
def collect (g : RadioGhost) (i : Nat) (c : List UInt8) : RadioGhost :=
  { g with received := g.received ++ [(i, c)],
           collected := Function.update g.collected i (g.collected i ++ [c]) }

/-- slot `i` freed: its session is over -/
def free (g : RadioGhost) (i : Nat) : RadioGhost :=
  { g with arrived := Function.update g.arrived i [],
           collected := Function.update g.collected i [] }

end RadioGhost

namespace RadioState

/-- the socket table against the ghost's sessions: each open socket in the slot of its number;
on an open socket the chunks collected and the data waiting make up the data that arrived,
and a free slot has no session -/
structure Table (s : RadioState) (g : RadioGhost) : Prop where
  id_eq : ∀ i sock, s.slot i = some sock → sock.id = i
  session_eq : ∀ i sock, s.slot i = some sock →
    (g.collected i).flatten ++ sock.inbound = g.arrived i
  free_eq : ∀ i, s.slot i = none → g.arrived i = [] ∧ g.collected i = []
  collected_ne_nil : ∀ i, ∀ c ∈ g.collected i, c ≠ []

/-- the logs against the ghost's histories: the last frames of each, and every frame counted -/
structure Logs (s : RadioState) (g : RadioGhost) : Prop where
  sent_eq : s.sent = lastFrames g.sent
  framesSent_eq : s.framesSent = g.sends
  received_eq : s.received = lastFrames g.received
  received_ne_nil : ∀ f ∈ g.received, f.2 ≠ []

variable {s s' : RadioState} {g g' : RadioGhost}

theorem slot_congr (h : s'.sockets = s.sockets) (i : Nat) : s'.slot i = s.slot i := by
  rw [slot, slot, h]

/-- a change that leaves the sockets and the sessions alone keeps the table -/
theorem Table.congr (h : s.Table g) (hs : s'.sockets = s.sockets) (ha : g'.arrived = g.arrived)
    (hc : g'.collected = g.collected) : s'.Table g' where
  id_eq i sock hi := h.id_eq i sock (slot_congr hs i ▸ hi)
  session_eq i sock hi := ha ▸ hc ▸ h.session_eq i sock (slot_congr hs i ▸ hi)
  free_eq i hi := ha ▸ hc ▸ h.free_eq i (slot_congr hs i ▸ hi)
  collected_ne_nil := hc ▸ h.collected_ne_nil

/-- writing one slot keeps the table when the slot's new content and session agree and the
other sessions are left alone -/
theorem Table.set (h : s.Table g) {j : Nat} {o : Option Socket}
    (hs : s'.sockets = s.sockets.setIfInBounds j o) (hj : j < maxSockets)
    (ha : ∀ i, i ≠ j → g'.arrived i = g.arrived i)
    (hc : ∀ i, i ≠ j → g'.collected i = g.collected i)
    (hsome : ∀ sock, o = some sock →
      sock.id = j ∧ (g'.collected j).flatten ++ sock.inbound = g'.arrived j)
    (hnone : o = none → g'.arrived j = [] ∧ g'.collected j = [])
    (hne : ∀ c ∈ g'.collected j, c ≠ []) : s'.Table g' := by
  have hslot : ∀ i, s'.slot i = if j = i then o else s.slot i := by
    intro i
    rw [slot_of_set hs]
    simp only [hj, and_true]
  constructor
  · intro i sock hi
    rw [hslot] at hi
    split at hi
    · rename_i hji
      subst hji
      exact (hsome sock hi).1
    · exact h.id_eq i sock hi
  · intro i sock hi
    rw [hslot] at hi
    split at hi
    · rename_i hji
      subst hji
      exact (hsome sock hi).2
    · rename_i hji
      rw [ha i (Ne.symm hji), hc i (Ne.symm hji)]
      exact h.session_eq i sock hi
  · intro i hi
    rw [hslot] at hi
    split at hi
    · rename_i hji
      subst hji
      exact hnone hi
    · rename_i hji
      rw [ha i (Ne.symm hji), hc i (Ne.symm hji)]
      exact h.free_eq i hi
  · intro i
    by_cases hji : i = j
    · subst hji
      exact hne
    · rw [hc i hji]
      exact h.collected_ne_nil i

/-- a connection in a free slot starts its session empty -/
theorem Table.connect (h : s.Table g) {j : Nat} (hfree : s.slot j = none) (hj : j < maxSockets)
    {ip : Ipv4Addr} {port : Nat} (hs : s'.sockets = s.sockets.setIfInBounds j (some ⟨j, ip, port, []⟩)) :
    s'.Table g := by
  obtain ⟨ha, hc⟩ := h.free_eq j hfree
  refine h.set hs hj (fun _ _ => rfl) (fun _ _ => rfl) ?_ (fun h => nomatch h) ?_
  · rintro sock ⟨⟩
    simp [ha, hc]
  · simp [hc]

/-- closing an open socket ends its session -/
theorem Table.close (h : s.Table g) {j : Nat} {sock : Socket} (hopen : s.slot j = some sock)
    (hs : s'.sockets = s.sockets.setIfInBounds j none) : s'.Table (g.free j) := by
  refine h.set hs (lt_of_slot_eq_some hopen) (fun i hi => Function.update_of_ne hi _ _)
    (fun i hi => Function.update_of_ne hi _ _) (fun _ h => nomatch h) ?_ ?_
  · intro _
    simp [RadioGhost.free]
  · simp [RadioGhost.free]

/-- data arriving on an open socket waits behind the data already there -/
theorem Table.arrive (h : s.Table g) {j : Nat} {sock : Socket} (hopen : s.slot j = some sock)
    (d : List UInt8)
    (hs : s'.sockets = s.sockets.setIfInBounds j (some { sock with inbound := sock.inbound ++ d })) :
    s'.Table (g.arrive j d) := by
  refine h.set hs (lt_of_slot_eq_some hopen) (fun i hi => Function.update_of_ne hi _ _)
    (fun _ _ => rfl) ?_
    (fun h => nomatch h) (h.collected_ne_nil j)
  rintro _ ⟨⟩
  refine ⟨h.id_eq j sock hopen, ?_⟩
  simp only [RadioGhost.arrive, Function.update_self]
  rw [← List.append_assoc, h.session_eq j sock hopen]

/-- collecting a socket's waiting data moves it, whole, to the end of the session's chunks -/
theorem Table.collect (h : s.Table g) {j : Nat} {sock : Socket} (hopen : s.slot j = some sock)
    (hne : sock.inbound ≠ [])
    (hs : s'.sockets = s.sockets.setIfInBounds j (some { sock with inbound := [] })) :
    s'.Table (g.collect j sock.inbound) := by
  refine h.set hs (lt_of_slot_eq_some hopen) (fun _ _ => rfl)
    (fun i hi => Function.update_of_ne hi _ _) ?_
    (fun h => nomatch h) ?_
  · rintro _ ⟨⟩
    refine ⟨h.id_eq j sock hopen, ?_⟩
    simp only [RadioGhost.collect, Function.update_self, List.flatten_append, List.flatten_cons,
      List.flatten_nil, List.append_nil]
    exact h.session_eq j sock hopen
  · simp only [RadioGhost.collect, Function.update_self, List.mem_append, List.mem_singleton]
    rintro c (hc | rfl)
    · exact h.collected_ne_nil j c hc
    · exact hne

/-- a change that leaves the logs and the histories alone keeps the logs -/
theorem Logs.congr (h : s.Logs g) (hsent : s'.sent = s.sent) (hfs : s'.framesSent = s.framesSent)
    (hrecv : s'.received = s.received) (gsent : g'.sent = g.sent) (gsends : g'.sends = g.sends)
    (grecv : g'.received = g.received) : s'.Logs g' where
  sent_eq := by rw [hsent, gsent, h.sent_eq]
  framesSent_eq := by rw [hfs, gsends, h.framesSent_eq]
  received_eq := by rw [hrecv, grecv, h.received_eq]
  received_ne_nil := grecv ▸ h.received_ne_nil

/-- a frame sent goes to the end of the sent log and is counted -/
theorem Logs.send (h : s.Logs g) (f : Frame) (hsent : s'.sent = retainFrame s.sent f)
    (hfs : s'.framesSent = s.framesSent + 1) (hrecv : s'.received = s.received) :
    s'.Logs (g.send f) where
  sent_eq := by rw [hsent, h.sent_eq, retainFrame_lastFrames]; rfl
  framesSent_eq := by rw [hfs, h.framesSent_eq]; rfl
  received_eq := by rw [hrecv, h.received_eq]; rfl
  received_ne_nil := h.received_ne_nil

/-- a chunk collected goes to the end of the received log -/
theorem Logs.collect (h : s.Logs g) {i : Nat} {c : List UInt8} (hne : c ≠ [])
    (hrecv : s'.received = retainFrame s.received (i, c)) (hsent : s'.sent = s.sent)
    (hfs : s'.framesSent = s.framesSent) : s'.Logs (g.collect i c) where
  sent_eq := by rw [hsent, h.sent_eq]; rfl
  framesSent_eq := by rw [hfs, h.framesSent_eq]; rfl
  received_eq := by rw [hrecv, h.received_eq, retainFrame_lastFrames]; rfl
  received_ne_nil := by
    simp only [RadioGhost.collect, List.mem_append, List.mem_singleton]
    rintro f (hf | rfl)
    · exact h.received_ne_nil f hf
    · exact hne

end RadioState

/-! ## calls on the radio -/

/-- a call made on the radio, whose inbound hooks act on a world `ω` -/
inductive RadioCall (ω : Type) where
  /-- a request delivered to the radio: a service and its payload -/
  | request (service : Nat) (payload : List UInt8)
  /-- data arriving on a socket, the hook installed acting on `world` -/
  | inject (socket : Nat) (data : List UInt8) (world : ω)
  /-- the host takes the sent log -/
  | takeSent
  /-- the host takes the received log -/
  | takeReceived
  /-- an inbound hook installed, or the one installed removed -/
  | setHook (hook : Option (InboundHook ω))

/-- the hook installed after a call -/
def RadioCall.hookAfter {ω : Type} : RadioCall ω → Option (InboundHook ω) → Option (InboundHook ω)
  | .setHook h, _ => h
  | _, h => h

namespace Radio

variable {ω : Type}

/-- the radio after a call, with `hook` installed; an injection the radio refuses changes
nothing -/
def apply (m : Radio) (hook : Option (InboundHook ω)) : RadioCall ω → Radio
  | .request service p => m.call service p
  | .inject i d w =>
    match m.injectInbound hook i d w with
    | .ok (m', _) => m'
    | .error _ => m
  | .takeSent => m.takeSent.2
  | .takeReceived => m.takeReceived.2
  | .setHook _ => m

theorem invoke_state (m : Radio) :
    m.invoke.state = m.state.serve m.buffer.service m.buffer.reader := by
  unfold invoke RadioState.serve
  split <;> rename_i h <;> simp [h]

theorem invoke_maxPayload (m : Radio) : m.invoke.buffer.maxPayload = m.buffer.maxPayload := by
  unfold invoke
  split <;> rfl

/-- at a radio whose buffer is as made, a payload of at most `argCapacity` bytes is served
from a buffer holding exactly it -/
theorem call_of_le_capacity {m : Radio} (hm : m.buffer.maxPayload = argCapacity) (service : Nat)
    (p : List UInt8) (hfit : p.length ≤ argCapacity) :
    ∃ b : ServiceBuffer, b.service = service ∧ b.reader = ⟨p⟩ ∧
      m.call service p = { m with buffer := b }.invoke := by
  obtain ⟨b, hsvc, hrd, -, hcall⟩ := @call_of_fits m service p (hm ▸ hfit)
    (by simp only [argCapacity] at hfit; omega)
  exact ⟨b, hsvc, hrd, hcall⟩

/-- a request whose payload fits the radio's buffer is served; a larger one changes nothing -/
theorem call_state {m : Radio} (hm : m.buffer.maxPayload = argCapacity) (service : Nat)
    (p : List UInt8) :
    (m.call service p).state =
      if argCapacity < p.length then m.state else m.state.serve service ⟨p⟩ := by
  by_cases hbig : argCapacity < p.length
  · rw [if_pos hbig, call_of_too_large (hm ▸ hbig)]
  · rw [if_neg hbig]
    obtain ⟨b, hsvc, hrd, hcall⟩ := call_of_le_capacity hm service p (by omega)
    rw [hcall, invoke_state, hsvc, hrd]

theorem call_maxPayload (m : Radio) (service : Nat) (p : List UInt8) :
    (m.call service p).buffer.maxPayload = m.buffer.maxPayload := by
  unfold call
  split
  · rename_i b hl
    rw [invoke_maxPayload]
    obtain ⟨hp, rfl⟩ := ServiceBuffer.load_eq_ok hl
    simp only [ServiceBuffer.maxPayload, List.cons_append, List.length_cons, List.length_append,
      List.length_drop]
    simp only [ServiceBuffer.maxPayload] at hp
    omega
  · rfl

/-- data arriving on an open socket is appended to its inbound data; on a closed one it is
refused and nothing changes.  Whatever hook is installed, it runs after the data is stored and
acts only on its own world. -/
theorem apply_inject_state (m : Radio) (hook : Option (InboundHook ω)) (i : Nat) (d : List UInt8)
    (w : ω) :
    (m.apply hook (.inject i d w)).state =
      match m.state.slot i with
      | some sock =>
        { m.state with
          sockets := m.state.sockets.setIfInBounds i (some { sock with inbound := sock.inbound ++ d }) }
      | none => m.state := by
  simp only [apply, injectInbound, bind, Except.bind]
  cases h : m.state.slot i with
  | none => rw [RadioState.socket_of_slot_none h]
  | some sock =>
    rw [RadioState.socket_eq_ok_iff.mpr h]
    rcases hook with _ | hook <;> rfl

theorem apply_inject_buffer (m : Radio) (hook : Option (InboundHook ω)) (i : Nat) (d : List UInt8)
    (w : ω) : (m.apply hook (.inject i d w)).buffer = m.buffer := by
  simp only [apply, injectInbound, bind, Except.bind]
  cases m.state.socket i with
  | error => rfl
  | ok sock => rcases hook with _ | hook <;> rfl

end Radio

/-! ## runs -/

namespace RadioGhost

/-- what a request that reaches the radio does, by the documented behaviour of its service:
a SEND_TCP that succeeds sends its frame; a RECEIVE on an open socket collects the data
waiting there, if any; a CLOSE_TCP on an open socket ends its session -/
def serve (g : RadioGhost) (s : RadioState) : Nat → List UInt8 → RadioGhost
  | 2, b :: d => if (s.send ⟨b :: d⟩).isOk then g.send (b.toNat, d) else g
  | 3, b :: _ =>
    match s.slot b.toNat with
    | some sock => if sock.inbound = [] then g else g.collect b.toNat sock.inbound
    | none => g
  | 4, b :: _ => if (s.slot b.toNat).isSome then g.free b.toNat else g
  | _, _ => g

theorem serve_nil (g : RadioGhost) (s : RadioState) (service : Nat) : g.serve s service [] = g := by
  rcases service with _ | _ | _ | _ | _ | n <;> rfl

/-- the ghost after a call on the radio `m`: a request larger than the buffer never reaches
the radio, data arrives only on an open socket, and taking a log starts its history anew -/
def record {ω : Type} (g : RadioGhost) (m : Radio) : RadioCall ω → RadioGhost
  | .request service p => if argCapacity < p.length then g else g.serve m.state service p
  | .inject i d _ => if (m.state.slot i).isSome then g.arrive i d else g
  | .takeSent => { g with sent := [] }
  | .takeReceived => { g with received := [] }
  | .setHook _ => g

end RadioGhost

/-- a radio, the inbound hook installed on it, and the ghost of the calls made on it -/
structure RadioRun (ω : Type) where
  radio : Radio
  hook : Option (InboundHook ω)
  ghost : RadioGhost

namespace RadioRun

variable {ω : Type}

/-- a new radio with no hook, nothing done yet -/
def start : RadioRun ω := ⟨{}, none, {}⟩

def step (r : RadioRun ω) (c : RadioCall ω) : RadioRun ω :=
  ⟨r.radio.apply r.hook c, c.hookAfter r.hook, r.ghost.record r.radio c⟩

def run (calls : List (RadioCall ω)) : RadioRun ω := calls.foldl step start

/-- the invariant of a run: the buffer as made, and the socket table and the logs against
the ghost -/
structure Tracks {ω : Type} (r : RadioRun ω) : Prop where
  maxPayload_eq : r.radio.buffer.maxPayload = argCapacity
  table : r.radio.state.Table r.ghost
  logs : r.radio.state.Logs r.ghost

end RadioRun

namespace RadioState

/-! ## each service keeps the invariant -/

variable {s : RadioState} {g : RadioGhost}

theorem tracks_server (ht : s.Table g) (hl : s.Logs g) (p : List UInt8) :
    (s.serve 0 ⟨p⟩).Table (g.serve s 0 p) ∧ (s.serve 0 ⟨p⟩).Logs (g.serve s 0 p) := by
  rw [serve_server]
  exact ⟨ht.congr rfl rfl rfl, hl.congr rfl rfl rfl rfl rfl rfl⟩

theorem tracks_connect (ht : s.Table g) (hl : s.Logs g) (p : List UInt8) :
    (s.serve 1 ⟨p⟩).Table (g.serve s 1 p) ∧ (s.serve 1 ⟨p⟩).Logs (g.serve s 1 p) := by
  change (s.serve 1 ⟨p⟩).Table g ∧ (s.serve 1 ⟨p⟩).Logs g
  rcases hd : ConnectRequest.decode ⟨p⟩ with f | ⟨req, r'⟩
  · have hrun : Radio.run s 1 ⟨p⟩ = some (.error f) :=
      congrArg some (connect_of_decode_error hd)
    rw [serve_of_error hrun]
    exact ⟨ht, hl⟩
  rcases hi : s.sockets.toList.findIdx? (·.isNone) with _ | i
  · have hrun : Radio.run s 1 ⟨p⟩ = some (.error .noFreeSocket) :=
      congrArg some (connect_of_full hd hi)
    rw [serve_of_error hrun]
    exact ⟨ht, hl⟩
  · -- the connection takes a free slot, so its session starts empty
    have hrun : Radio.run s 1 ⟨p⟩ =
        some (.ok { s with sockets := s.sockets.setIfInBounds i (some ⟨i, req.ip, req.port, []⟩) }) :=
      congrArg some (connect_of_free hd hi)
    rw [serve_of_ok hrun]
    obtain ⟨hlt, hfree, -⟩ := findIdx?_isNone_eq_some_iff.mp hi
    exact ⟨ht.connect hfree hlt rfl, hl.congr rfl rfl rfl rfl rfl rfl⟩

theorem tracks_send (ht : s.Table g) (hl : s.Logs g) (b : UInt8) (d : List UInt8) :
    (s.serve 2 ⟨b :: d⟩).Table (g.serve s 2 (b :: d)) ∧
      (s.serve 2 ⟨b :: d⟩).Logs (g.serve s 2 (b :: d)) := by
  rw [serve_send]
  cases hb : s.slot b.toNat with
  | none =>
    have hfail : (s.send ⟨b :: d⟩).isOk = false := by
      rw [send_cons, socket_of_slot_none hb]
      rfl
    simp only [RadioGhost.serve, hfail]
    exact ⟨ht, hl⟩
  | some sock =>
    have hok : (s.send ⟨b :: d⟩).isOk = true := by
      rw [send_cons, socket_eq_ok_iff.mpr hb]
      rfl
    simp only [RadioGhost.serve, hok, if_true]
    exact ⟨ht.congr rfl rfl rfl, hl.send _ rfl rfl rfl⟩

theorem tracks_receive (ht : s.Table g) (hl : s.Logs g) (b : UInt8) (rest : List UInt8) :
    (s.serve 3 ⟨b :: rest⟩).Table (g.serve s 3 (b :: rest)) ∧
      (s.serve 3 ⟨b :: rest⟩).Logs (g.serve s 3 (b :: rest)) := by
  rw [serve_receive]
  cases hb : s.slot b.toNat with
  | none =>
    simp only [RadioGhost.serve, hb]
    exact ⟨ht, hl⟩
  | some sock =>
    simp only [RadioGhost.serve, hb]
    by_cases hin : sock.inbound = []
    · simp only [hin, if_true]
      exact ⟨ht, hl⟩
    · simp only [hin, if_false]
      exact ⟨ht.collect hb hin rfl, hl.collect hin rfl rfl rfl⟩

theorem tracks_close (ht : s.Table g) (hl : s.Logs g) (b : UInt8) (rest : List UInt8) :
    (s.serve 4 ⟨b :: rest⟩).Table (g.serve s 4 (b :: rest)) ∧
      (s.serve 4 ⟨b :: rest⟩).Logs (g.serve s 4 (b :: rest)) := by
  rw [serve_close]
  cases hb : s.slot b.toNat with
  | none =>
    simp only [RadioGhost.serve, hb]
    exact ⟨ht, hl⟩
  | some sock =>
    simp only [RadioGhost.serve, hb, Option.isSome_some, if_true]
    exact ⟨ht.close hb rfl, hl.congr rfl rfl rfl rfl rfl rfl⟩

/-- every request the radio serves keeps the invariant, with the ghost its service gives -/
theorem tracks_serve (ht : s.Table g) (hl : s.Logs g) (service : Nat) (p : List UInt8) :
    (s.serve service ⟨p⟩).Table (g.serve s service p) ∧
      (s.serve service ⟨p⟩).Logs (g.serve s service p) := by
  rcases p with _ | ⟨b, d⟩
  · rw [serve_nil, RadioGhost.serve_nil]
    exact ⟨ht, hl⟩
  match service with
  | 0 => exact tracks_server ht hl _
  | 1 => exact tracks_connect ht hl _
  | 2 => exact tracks_send ht hl b d
  | 3 => exact tracks_receive ht hl b d
  | 4 => exact tracks_close ht hl b d
  | n + 5 =>
    rw [serve_unknown]
    exact ⟨ht, hl⟩

end RadioState

namespace RadioRun

variable {ω : Type}

theorem start_tracks : (start : RadioRun ω).Tracks where
  maxPayload_eq := rfl
  table :=
    { id_eq := fun i _ h => nomatch (RadioState.slot_new i).symm.trans h
      session_eq := fun i _ h => nomatch (RadioState.slot_new i).symm.trans h
      free_eq := fun _ _ => ⟨rfl, rfl⟩
      collected_ne_nil := fun _ _ h => nomatch h }
  logs := ⟨rfl, rfl, rfl, fun _ h => nomatch h⟩

variable {r : RadioRun ω}

theorem step_tracks (h : r.Tracks) (c : RadioCall ω) : (r.step c).Tracks := by
  cases c with
  | request service p =>
    -- a request too large for the buffer never reaches the radio
    have hagree :
        (r.radio.call service p).state.Table (r.ghost.record r.radio (.request service p : RadioCall ω)) ∧
          (r.radio.call service p).state.Logs (r.ghost.record r.radio (.request service p : RadioCall ω)) := by
      rw [Radio.call_state h.maxPayload_eq]
      by_cases hbig : argCapacity < p.length
      · simp only [RadioGhost.record, hbig, if_true]
        exact ⟨h.table, h.logs⟩
      · simp only [RadioGhost.record, hbig, if_false]
        exact RadioState.tracks_serve h.table h.logs service p
    exact ⟨(Radio.call_maxPayload _ _ _).trans h.maxPayload_eq, hagree.1, hagree.2⟩
  | inject i d w =>
    have hagree :
        (r.radio.apply r.hook (.inject i d w)).state.Table (r.ghost.record r.radio (.inject i d w)) ∧
          (r.radio.apply r.hook (.inject i d w)).state.Logs (r.ghost.record r.radio (.inject i d w)) := by
      rw [Radio.apply_inject_state]
      cases hs : r.radio.state.slot i with
      | none =>
        simp only [RadioGhost.record, hs]
        exact ⟨h.table, h.logs⟩
      | some sock =>
        simp only [RadioGhost.record, hs, Option.isSome_some, if_true]
        exact ⟨h.table.arrive hs d rfl, h.logs.congr rfl rfl rfl rfl rfl rfl⟩
    refine ⟨?_, hagree.1, hagree.2⟩
    rw [step, Radio.apply_inject_buffer]
    exact h.maxPayload_eq
  | takeSent =>
    exact ⟨h.maxPayload_eq, h.table.congr rfl rfl rfl,
      ⟨rfl, h.logs.framesSent_eq, h.logs.received_eq, h.logs.received_ne_nil⟩⟩
  | takeReceived =>
    exact ⟨h.maxPayload_eq, h.table.congr rfl rfl rfl,
      ⟨h.logs.sent_eq, h.logs.framesSent_eq, rfl, fun _ h => nomatch h⟩⟩
  | setHook hook => exact ⟨h.maxPayload_eq, h.table, h.logs⟩

theorem foldl_tracks (h : r.Tracks) (calls : List (RadioCall ω)) : (calls.foldl step r).Tracks := by
  induction calls generalizing r with
  | nil => exact h
  | cons c calls ih => exact ih (step_tracks h c)

/-- every run keeps the invariant -/
theorem run_tracks (calls : List (RadioCall ω)) : (run calls).Tracks := foldl_tracks start_tracks calls

end RadioRun

namespace Radio

variable {m : Radio} (hm : m.buffer.maxPayload = argCapacity)
include hm

/-- the outcome a served request writes: `Ok`, or the code of its fault -/
theorem call_outcome {service : Nat} {p : List UInt8} (hfit : p.length ≤ argCapacity)
    {o : Except RadioFault RadioState} (h : run m.state service ⟨p⟩ = some o) :
    (m.call service p).buffer.outcome =
      match o with
      | .ok _ => .ok
      | .error f => .failed f.code := by
  obtain ⟨b, hsvc, hrd, hcall⟩ := call_of_le_capacity hm service p hfit
  rw [hcall]
  unfold invoke
  simp only [hsvc, hrd, h]
  cases o <;> rfl

/-- a CONNECT_TCP whose payload reads either finds all five slots taken and fails with
`NoFreeSocket`, or opens the lowest free slot and reports `Ok` -/
theorem call_connect {p : List UInt8}
    (hfit : p.length ≤ argCapacity) {req : ConnectRequest} {r' : ArgReader}
    (hd : ConnectRequest.decode ⟨p⟩ = .ok (req, r')) :
    ((m.call 1 p).buffer.outcome = .failed 4 ↔ ∀ i < maxSockets, (m.state.slot i).isSome) ∧
    ((m.call 1 p).buffer.outcome = .ok →
      ∃ i, m.state.slot i = none ∧ (∀ j < i, (m.state.slot j).isSome) ∧
        (m.call 1 p).state =
          { m.state with
            sockets := m.state.sockets.setIfInBounds i (some ⟨i, req.ip, req.port, []⟩) }) := by
  rcases hi : m.state.sockets.toList.findIdx? (·.isNone) with _ | i
  · -- every slot is taken
    have hrun : run m.state 1 ⟨p⟩ = some (.error .noFreeSocket) :=
      congrArg some (RadioState.connect_of_full hd hi)
    have hfull := RadioState.findIdx?_isNone_eq_none_iff.mp hi
    rw [call_outcome hm hfit hrun]
    exact ⟨iff_of_true rfl hfull, fun h => nomatch h⟩
  · -- slot `i` is the lowest free one
    obtain ⟨hlt, hfree, hbelow⟩ := RadioState.findIdx?_isNone_eq_some_iff.mp hi
    have hrun : run m.state 1 ⟨p⟩ = some (.ok
        { m.state with sockets := m.state.sockets.setIfInBounds i (some ⟨i, req.ip, req.port, []⟩) }) :=
      congrArg some (RadioState.connect_of_free hd hi)
    rw [call_outcome hm hfit hrun]
    refine ⟨iff_of_false (fun h => nomatch h) fun hall => ?_,
      fun _ => ⟨i, hfree, hbelow, ?_⟩⟩
    · have hsome := hall i hlt
      rw [hfree] at hsome
      exact Bool.false_ne_true hsome
    · rw [call_state hm, if_neg (by omega), RadioState.serve_of_ok hrun]

/-- RECEIVE on an open socket: with no data waiting it changes nothing; otherwise it empties
the socket and puts the data, as one frame, at the end of the received log -/
theorem call_receive {b : UInt8} {rest : List UInt8} (hfit : rest.length < argCapacity)
    {sock : Socket} (hopen : m.state.slot b.toNat = some sock) :
    (m.call 3 (b :: rest)).state =
      if sock.inbound = [] then m.state
      else { m.state with
        sockets := m.state.sockets.setIfInBounds b.toNat (some { sock with inbound := [] })
        received := retainFrame m.state.received (b.toNat, sock.inbound) } := by
  rw [call_state hm, if_neg (by simp only [List.length_cons]; omega), RadioState.serve_receive,
    hopen]

end Radio

/-- **The socket table and the logs over any run.**  Start from a new radio and make any
calls: requests of any service with any payload, data arriving on any socket, the host taking
either log, any inbound hook installed or removed, acting on anything.  Then each open socket sits in the slot of its own
number, so the open sockets are the occupied slots in ascending order, at most five.  A
CONNECT_TCP whose payload reads fails with `NoFreeSocket` exactly when all five slots are
taken, and when it succeeds it opens the lowest free slot and changes nothing else.  The sent
log lists, oldest first, the last `min m 64` of the `m` frames sent since it was last taken,
and the counter counts every frame ever sent; the received log lists likewise the last
chunks collected since it was last taken, none of them empty. -/
theorem radio_sockets_and_logs {ω : Type} (calls : List (RadioCall ω)) :
    let r := RadioRun.run calls
    let s := r.radio.state
    (∀ i sock, s.slot i = some sock → sock.id = i) ∧
    (∀ i, i ∈ s.openSockets ↔ (s.slot i).isSome) ∧
    s.openSockets.Pairwise (· < ·) ∧ s.openSockets.length ≤ maxSockets ∧
    (∀ p : List UInt8, p.length ≤ argCapacity → ∀ req r',
      ConnectRequest.decode ⟨p⟩ = .ok (req, r') →
      ((r.radio.call 1 p).buffer.outcome = .failed 4 ↔ ∀ i < maxSockets, (s.slot i).isSome) ∧
      ((r.radio.call 1 p).buffer.outcome = .ok →
        ∃ i, s.slot i = none ∧ (∀ j < i, (s.slot j).isSome) ∧
          (r.radio.call 1 p).state =
            { s with sockets := s.sockets.setIfInBounds i (some ⟨i, req.ip, req.port, []⟩) })) ∧
    s.sent <:+ r.ghost.sent ∧ s.sent.length = min r.ghost.sent.length maxRetainedFrames ∧
    s.framesSent = r.ghost.sends ∧
    s.received <:+ r.ghost.received ∧
    s.received.length = min r.ghost.received.length maxRetainedFrames ∧
    ∀ f ∈ s.received, f.2 ≠ [] := by
  intro r s
  have h : r.Tracks := RadioRun.run_tracks calls
  have hid := h.table.id_eq
  have hlog := h.logs
  refine ⟨hid, fun i => RadioState.mem_openSockets hid, RadioState.openSockets_pairwise hid, ?_,
    fun p hfit req r' hd => Radio.call_connect h.maxPayload_eq hfit hd,
    ?_, ?_, hlog.framesSent_eq, ?_, ?_, ?_⟩
  · calc s.openSockets.length ≤ s.sockets.toList.length := List.length_filterMap_le _ _
      _ = maxSockets := Vector.length_toList
  · rw [hlog.sent_eq]
    exact lastFrames_suffix _
  · rw [hlog.sent_eq, length_lastFrames]
  · rw [hlog.received_eq]
    exact lastFrames_suffix _
  · rw [hlog.received_eq, length_lastFrames]
  · intro f hf
    rw [hlog.received_eq] at hf
    exact hlog.received_ne_nil f ((lastFrames_suffix _).subset hf)

/-- **Inbound data is neither lost nor duplicated.**  Over any run from a new radio, whatever
inbound hooks are installed, on each
open socket the chunks collected by RECEIVE since the slot was last freed, joined and followed
by the data still waiting, are exactly the data that arrived on it since; a free slot has no
such data, so this is the data of the socket's session, which started empty.  Every chunk
collected is nonempty and goes, as one frame, to the end of the received log, which holds the
last of them; a RECEIVE on an open socket with no data waiting changes nothing. -/
theorem radio_sessions_conserve_data {ω : Type} (calls : List (RadioCall ω)) :
    let r := RadioRun.run calls
    let s := r.radio.state
    (∀ i sock, s.slot i = some sock →
      (r.ghost.collected i).flatten ++ sock.inbound = r.ghost.arrived i) ∧
    (∀ i, s.slot i = none → r.ghost.arrived i = [] ∧ r.ghost.collected i = []) ∧
    (∀ i, ∀ c ∈ r.ghost.collected i, c ≠ []) ∧
    s.received = lastFrames r.ghost.received ∧
    (∀ b rest sock, rest.length < argCapacity → s.slot b.toNat = some sock →
      (r.radio.call 3 (b :: rest)).state =
        if sock.inbound = [] then s
        else { s with
          sockets := s.sockets.setIfInBounds b.toNat (some { sock with inbound := [] })
          received := retainFrame s.received (b.toNat, sock.inbound) }) := by
  intro r s
  have h : r.Tracks := RadioRun.run_tracks calls
  exact ⟨h.table.session_eq, h.table.free_eq, h.table.collected_ne_nil, h.logs.received_eq,
    fun _ _ _ hfit hopen => Radio.call_receive h.maxPayload_eq hfit hopen⟩

end RoverKernel
