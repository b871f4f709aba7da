import Mathlib
import LineShell.Loop
import LineShell.Source.Plain

/-!
# Laws of actions

An action is a function from a shell to an outcome, so every law about what a shell does is an
equation between outcomes.  This file holds the equations of the primitive actions, in the form in
which a block of them is executed step by step: `Action.bind_apply` runs one action after another,
and each primitive has its own equation.

A write and a flush either succeed or fail, whatever the streams are (`Action.write_cases`,
`Action.flush_cases`).  What may become of the room of a stream is said by `Room.Becomes`: such a
room never gets larger.  Two kinds of shells are of use.  `Shell.Limited` says that both streams
fail for want of room only, and then flushes succeed; `Shell.Unlimited` says that both take
everything, and over such a shell a write is nothing but its event (`Action.write_of_unlimited`).
-/

namespace LineShell

variable {σ ι ε δ α β : Type}

namespace Outcome

/-- The outcome with some events put before its own. -/
def after (events : List Event) (o : Outcome σ ι ε α) : Outcome σ ι ε α :=
  { o with events := events ++ o.events }

@[simp]
lemma after_result (events : List Event) (o : Outcome σ ι ε α) :
    (o.after events).result = o.result := rfl

@[simp]
lemma after_shell (events : List Event) (o : Outcome σ ι ε α) :
    (o.after events).shell = o.shell := rfl

@[simp]
lemma after_events (events : List Event) (o : Outcome σ ι ε α) :
    (o.after events).events = events ++ o.events := rfl

@[simp]
lemma after_mk (es fs : List Event) (result : Except ε α) (s : Shell σ ι) :
    (⟨result, s, fs⟩ : Outcome σ ι ε α).after es = ⟨result, s, es ++ fs⟩ := rfl

/-- Nothing put before an outcome leaves it as it is. -/
@[simp]
lemma after_nil (o : Outcome σ ι ε α) : o.after [] = o := rfl

/-- Events put before an outcome one list after the other join. -/
@[simp]
lemma after_after (es fs : List Event) (o : Outcome σ ι ε α) :
    (o.after fs).after es = o.after (es ++ fs) := by
  unfold after
  rw [List.append_assoc]

end Outcome

/-! ## What becomes of a room -/

namespace Room

/-- What calls make of a room: an unlimited one stays unlimited, one of so many bytes has no more of
them than before, and of replies those are left that have not been given. -/
inductive Becomes : Room → Room → Prop
  | unlimited : Becomes none none
  | bytes {n n' : ℕ} (h : n' ≤ n) : Becomes (some (.upTo n)) (some (.upTo n'))
  | replies (replies : ℕ → Reply) (k : ℕ) :
      Becomes (some (.replying replies)) (some (.replying fun i => replies (i + k)))

/-- Without calls a room becomes what it is. -/
@[refl]
lemma Becomes.refl (room : Room) : room.Becomes room := by
  rcases room with _ | n | replies
  · exact .unlimited
  · exact .bytes le_rfl
  · exact .replies replies 0

/-- What calls make of what calls have made is what they all make. -/
lemma Becomes.trans {room room' room'' : Room} (h : room.Becomes room')
    (h' : room'.Becomes room'') : room.Becomes room'' := by
  cases h with
  | unlimited => exact h'
  | bytes hn =>
    cases h' with
    | bytes hn' => exact .bytes (hn'.trans hn)
  | replies replies k =>
    cases h' with
    | replies _ k' =>
      have hreplies : (fun i => replies (i + k' + k)) = fun i => replies (i + (k' + k)) :=
        funext fun i => by rw [Nat.add_assoc]
      rw [hreplies]
      exact .replies replies (k' + k)

/-- The stream counts bytes at most: it refuses a write for want of room only, and its flushes
succeed. -/
def Limited (room : Room) : Prop :=
  ∀ replies, room ≠ some (.replying replies)

/-- A stream that takes everything fails for no reason at all. -/
lemma limited_none : Limited none := by
  rintro replies ⟨⟩

/-- A stream with room for so many bytes fails for want of room only. -/
lemma limited_upTo (n : ℕ) : Limited (some (.upTo n)) := by
  rintro replies ⟨⟩

/-- A stream that counts bytes at most goes on to do so. -/
lemma Becomes.limited {room room' : Room} (h : room.Becomes room') (hroom : room.Limited) :
    room'.Limited := by
  cases h with
  | unlimited => exact hroom
  | bytes => exact limited_upTo _
  | replies replies k => exact absurd rfl (hroom replies)

/-- An unlimited stream stays unlimited. -/
lemma Becomes.eq_none {room : Room} (h : Becomes none room) : room = none := by
  cases h
  rfl

/-- A stream with room for so many bytes never has room for more. -/
lemma Becomes.exists_upTo {n : ℕ} {room : Room} (h : Becomes (some (.upTo n)) room) :
    ∃ n' ≤ n, room = some (.upTo n') := by
  cases h with
  | bytes hn => exact ⟨_, hn, rfl⟩

@[simp]
lemma Answer.ofReply_left (bytes : List UInt8) (left : Room) (reply : Reply) :
    (Answer.ofReply bytes left reply).left = left := by
  cases reply <;> rfl

@[simp]
lemma offer_none (bytes : List UInt8) : offer none bytes = ⟨bytes, .ok (), none⟩ := rfl

lemma offer_upTo (n : ℕ) (bytes : List UInt8) :
    offer (some (.upTo n)) bytes =
      if bytes.length ≤ n then ⟨bytes, .ok (), some (.upTo (n - bytes.length))⟩
      else ⟨bytes.take n, .error .refused, some (.upTo 0)⟩ := rfl

lemma offer_replying (replies : ℕ → Reply) (bytes : List UInt8) :
    offer (some (.replying replies)) bytes =
      .ofReply bytes (some (.replying fun k => replies (k + 1))) (replies 0) := rfl

lemma flush_replying (replies : ℕ → Reply) :
    flush (some (.replying replies)) =
      .ofReply [] (some (.replying fun k => replies (k + 1))) (replies 0) := rfl

/-- What a write makes of a room. -/
lemma becomes_offer (room : Room) (bytes : List UInt8) : room.Becomes (room.offer bytes).left := by
  rcases room with _ | n | replies
  · exact .unlimited
  · rw [offer_upTo]
    split_ifs
    · exact .bytes (Nat.sub_le _ _)
    · exact .bytes (Nat.zero_le n)
  · rw [offer_replying, Answer.ofReply_left]
    exact .replies replies 1

/-- What a flush makes of a room. -/
lemma becomes_flush (room : Room) : room.Becomes room.flush.left := by
  rcases room with _ | n | replies
  · exact .unlimited
  · exact .bytes le_rfl
  · rw [flush_replying, Answer.ofReply_left]
    exact .replies replies 1

/-- A write that succeeds was taken whole. -/
lemma taken_offer {room : Room} {bytes : List UInt8} (h : (room.offer bytes).result = .ok ()) :
    (room.offer bytes).taken = bytes := by
  rcases room with _ | n | replies
  · rfl
  · rw [offer_upTo] at h ⊢
    split_ifs at h ⊢
    rfl
  · rw [offer_replying] at h ⊢
    cases hreply : replies 0 with
    | complies => rfl
    | fails n e =>
      rw [hreply] at h
      cases h

/-- Where bytes are counted at most, a flush succeeds and changes nothing. -/
lemma Limited.flush_eq {room : Room} (h : room.Limited) : room.flush = ⟨[], .ok (), room⟩ := by
  rcases room with _ | n | replies
  · rfl
  · rfl
  · exact absurd rfl (h replies)

/-- Where bytes are counted at most, a write is taken whole, or it is refused after the bytes for
which there is room, and then no room is left. -/
lemma Limited.offer_cases {room : Room} (h : room.Limited) (bytes : List UInt8) :
    ((∀ n, room = some (.upTo n) → bytes.length ≤ n) ∧ (room.offer bytes).result = .ok ()) ∨
    ∃ n, room = some (.upTo n) ∧ n < bytes.length ∧
      room.offer bytes = ⟨bytes.take n, .error .refused, some (.upTo 0)⟩ := by
  rcases room with _ | n | replies
  · exact Or.inl ⟨by simp, rfl⟩
  · rw [offer_upTo]
    by_cases hn : bytes.length ≤ n
    · left
      refine ⟨?_, by rw [if_pos hn]⟩
      rintro m ⟨⟩
      exact hn
    · exact Or.inr ⟨n, rfl, Nat.lt_of_not_le hn, if_neg hn⟩
  · exact absurd rfl (h replies)

end Room

/-! ## Shells by their streams -/

namespace Shell

/-- Neither stream of the shell ever refuses a write, or fails otherwise. -/
structure Unlimited (s : Shell σ ι) : Prop where
  out : s.out = none
  err : s.err = none

/-- Both streams of the shell fail for want of room only. -/
structure Limited (s : Shell σ ι) : Prop where
  out : s.out.Limited
  err : s.err.Limited

/-- Each stream of the second shell has what calls make of its room in the first. -/
def Becomes (s s' : Shell σ ι) : Prop :=
  ∀ stream, (s.room stream).Becomes (s'.room stream)

/-- Over an unlimited shell every stream has unlimited room. -/
lemma Unlimited.room {s : Shell σ ι} (hs : s.Unlimited) (stream : Stream) :
    s.room stream = none := by
  cases stream with
  | out => exact hs.out
  | err => exact hs.err

/-- Over a limited shell every stream fails for want of room only. -/
lemma Limited.room {s : Shell σ ι} (hs : s.Limited) (stream : Stream) :
    (s.room stream).Limited := by
  cases stream with
  | out => exact hs.out
  | err => exact hs.err

/-- Streams that take everything do not fail for want of room either. -/
lemma Unlimited.limited {s : Shell σ ι} (hs : s.Unlimited) : s.Limited where
  out := by
    rw [hs.out]
    exact Room.limited_none
  err := by
    rw [hs.err]
    exact Room.limited_none

/-- Without calls streams become what they are. -/
lemma Becomes.of_eq {s s' : Shell σ ι} (hout : s'.out = s.out) (herr : s'.err = s.err) :
    s.Becomes s' := by
  intro stream
  have hroom : s'.room stream = s.room stream := by
    cases stream with
    | out => exact hout
    | err => exact herr
  rw [hroom]

/-- What calls make of what calls have made is what they all make. -/
lemma Becomes.trans {s s' s'' : Shell σ ι} (h : s.Becomes s') (h' : s'.Becomes s'') :
    s.Becomes s'' :=
  fun stream => (h stream).trans (h' stream)

/-- Streams that fail for want of room only go on to do so. -/
lemma Becomes.limited {s s' : Shell σ ι} (h : s.Becomes s') (hs : s.Limited) : s'.Limited :=
  ⟨(h .out).limited hs.out, (h .err).limited hs.err⟩

/-- Streams that take everything go on to do so. -/
lemma Becomes.unlimited {s s' : Shell σ ι} (h : s.Becomes s') (hs : s.Unlimited) :
    s'.Unlimited where
  out := by
    have hout := h .out
    rw [hs.room] at hout
    exact hout.eq_none
  err := by
    have herr := h .err
    rw [hs.room] at herr
    exact herr.eq_none

/-- Giving a stream the room that it has already changes nothing. -/
@[simp]
lemma setRoom_room (s : Shell σ ι) (stream : Stream) : s.setRoom stream (s.room stream) = s := by
  cases stream <;> rfl

/-- The room of a stream that was set is what it was set to. -/
@[simp]
lemma room_setRoom (s : Shell σ ι) (stream : Stream) (room : Room) :
    (s.setRoom stream room).room stream = room := by
  cases stream <;> rfl

@[simp]
lemma session_setRoom (s : Shell σ ι) (stream : Stream) (room : Room) :
    (s.setRoom stream room).session = s.session := by
  cases stream <;> rfl

@[simp]
lemma source_setRoom (s : Shell σ ι) (stream : Stream) (room : Room) :
    (s.setRoom stream room).source = s.source := by
  cases stream <;> rfl

/-- A call of one stream leaves the other as it is. -/
lemma becomes_setRoom {s : Shell σ ι} {stream : Stream} {room : Room}
    (h : (s.room stream).Becomes room) : s.Becomes (s.setRoom stream room) := by
  intro stream'
  cases stream <;> cases stream' <;> first | exact h | exact .refl _

end Shell

/-! ## The primitive actions -/

namespace Action

/-- One action after another: the second one starts where the first one has ended, unless that
failed. -/
@[simp]
lemma bind_apply (x : Action σ ι ε α) (f : α → Action σ ι ε β) (s : Shell σ ι) :
    (x >>= f) s =
      match (x s).result with
      | .ok a => (f a (x s).shell).after (x s).events
      | .error e => ⟨.error e, (x s).shell, (x s).events⟩ := by
  change Action.bind x f s = _
  unfold Action.bind
  rcases x s with ⟨_ | _, s', es⟩ <;> rfl

@[simp]
lemma pure_apply (a : α) (s : Shell σ ι) : (pure a : Action σ ι ε α) s = ⟨.ok a, s, []⟩ := rfl

@[simp]
lemma fail_apply (e : ε) (s : Shell σ ι) :
    (fail e : Action σ ι ε α) s = ⟨.error e, s, []⟩ := rfl

@[simp]
lemma attempt_apply (x : Action σ ι ε α) (s : Shell σ ι) :
    (attempt x : Action σ ι δ (Except ε α)) s = ⟨.ok (x s).result, (x s).shell, (x s).events⟩ :=
  rfl

@[simp]
lemma session_apply (s : Shell σ ι) :
    (session : Action σ ι ε Session) s = ⟨.ok s.session, s, []⟩ := rfl

@[simp]
lemma change_apply (c : Change) (s : Shell σ ι) :
    (change c : Action σ ι ε Unit) s =
      ⟨.ok (), { s with session := s.session.apply c }, [.changed c]⟩ := rfl

@[simp]
lemma note_apply (r : Record) (s : Shell σ ι) :
    (note r : Action σ ι ε Unit) s = ⟨.ok (), s, [.noted r]⟩ := rfl

@[simp]
lemma ask_apply (question : σ → α × σ) (s : Shell σ ι) :
    (ask question : Action σ ι ε α) s =
      ⟨.ok (question s.host).1, { s with host := (question s.host).2 }, []⟩ := rfl

/-- The events of a text that is handed to the system shell. -/
def handing (text : Text) (run : Run) : List Event :=
  .noted (.handedOver text) :: .ran text run.outcome ::
    run.printed.map fun part => .printed part.1 part.2

@[simp]
lemma hand_apply (host : Host σ) (text : Text) (s : Shell σ ι) :
    (hand host text : Action σ ι ε RunOutcome) s =
      ⟨.ok (host.run text s.host).1.outcome, { s with host := (host.run text s.host).2 },
        handing text (host.run text s.host).1⟩ := rfl

/-- To do nothing after an action is to do that action. -/
lemma bind_pure_unit (x : Action σ ι ε Unit) (s : Shell σ ι) :
    (x >>= fun _ => pure ()) s = x s := by
  rw [bind_apply]
  rcases x s with ⟨_ | _, s', events⟩ <;> simp

/-- It does not matter how actions that are done one after the other are grouped. -/
lemma bind_assoc {γ : Type} (x : Action σ ι ε α) (f : α → Action σ ι ε β)
    (g : β → Action σ ι ε γ) : (x >>= f) >>= g = x >>= fun a => f a >>= g := by
  funext s
  simp only [bind_apply]
  rcases x s with ⟨_ | a, s', events⟩
  · rfl
  · simp only [Outcome.after_result, Outcome.after_shell, Outcome.after_events]
    rcases f a s' with ⟨_ | b, s'', events'⟩ <;> simp

/-- A write is taken whole, or it is refused after some of its bytes. -/
lemma write_cases (stream : Stream) (text : Text) (s : Shell σ ι) :
    let answer := (s.room stream).offer (Utf8.encode text)
    (answer.result = .ok () ∧ write stream text s =
        ⟨.ok (), s.setRoom stream answer.left, [.wrote stream (Utf8.encode text)]⟩) ∨
      ∃ e, answer.result = .error e ∧ write stream text s =
        ⟨.error e, s.setRoom stream answer.left,
          [.wrote stream answer.taken, .refused stream]⟩ := by
  intro answer
  cases hresult : answer.result with
  | ok _ =>
    have htaken : answer.taken = Utf8.encode text := Room.taken_offer hresult
    exact Or.inl ⟨rfl, by simp only [write, Event.ofWrite, answer, hresult, htaken]⟩
  | error e =>
    exact Or.inr ⟨e, rfl, by simp only [write, Event.ofWrite, answer, hresult]⟩

/-- What a command prints is a write whose refusal is the fault of the command. -/
lemma print_cases (stream : Stream) (text : Text) (s : Shell σ ι) :
    let answer := (s.room stream).offer (Utf8.encode text)
    (answer.result = .ok () ∧ print stream text s =
        ⟨.ok (), s.setRoom stream answer.left, [.wrote stream (Utf8.encode text)]⟩) ∨
      ∃ e, answer.result = .error e ∧ print stream text s =
        ⟨.error (.io e), s.setRoom stream answer.left,
          [.wrote stream answer.taken, .refused stream]⟩ := by
  unfold print mapError
  rcases write_cases stream text s with ⟨hresult, hwrite⟩ | ⟨e, hresult, hwrite⟩
  · exact Or.inl ⟨hresult, by rw [hwrite]; rfl⟩
  · exact Or.inr ⟨e, hresult, by rw [hwrite]; rfl⟩

/-- A flush succeeds or fails. -/
lemma flush_cases (s : Shell σ ι) :
    let answer := (s.room .out).flush
    (answer.result = .ok () ∧ flush s = ⟨.ok (), s.setRoom .out answer.left, [.flushed]⟩) ∨
      ∃ e, answer.result = .error e ∧
        flush s = ⟨.error e, s.setRoom .out answer.left, [.unflushed]⟩ := by
  intro answer
  cases hresult : answer.result with
  | ok _ => exact Or.inl ⟨rfl, by simp only [flush, Event.ofFlush, answer, hresult]⟩
  | error e => exact Or.inr ⟨e, rfl, by simp only [flush, Event.ofFlush, answer, hresult]⟩

/-- What a command flushes is a flush whose failure is the fault of the command. -/
lemma drain_cases (s : Shell σ ι) :
    let answer := (s.room .out).flush
    (answer.result = .ok () ∧ drain s = ⟨.ok (), s.setRoom .out answer.left, [.flushed]⟩) ∨
      ∃ e, answer.result = .error e ∧
        drain s = ⟨.error (.io e), s.setRoom .out answer.left, [.unflushed]⟩ := by
  unfold drain mapError
  rcases flush_cases s with ⟨hresult, hflush⟩ | ⟨e, hresult, hflush⟩
  · exact Or.inl ⟨hresult, by rw [hflush]; rfl⟩
  · exact Or.inr ⟨e, hresult, by rw [hflush]; rfl⟩

/-- What a write makes of the streams. -/
lemma becomes_write (stream : Stream) (text : Text) (s : Shell σ ι) :
    s.Becomes (write stream text s).shell :=
  Shell.becomes_setRoom (Room.becomes_offer _ _)

/-- What a flush makes of the streams. -/
lemma becomes_flush (s : Shell σ ι) : s.Becomes (flush s).shell :=
  Shell.becomes_setRoom (Room.becomes_flush _)

/-- Two actions make of the streams what the second makes of what the first has made. -/
lemma becomes_bind {x : Action σ ι ε α} {f : α → Action σ ι ε β} {s : Shell σ ι}
    (hx : s.Becomes (x s).shell) (hf : ∀ a (s : Shell σ ι), s.Becomes (f a s).shell) :
    s.Becomes ((x >>= f) s).shell := by
  rw [bind_apply]
  split
  · exact hx.trans (hf _ _)
  · exact hx

/-- On a stream that fails for want of room only, a write is taken whole, or it is refused after the
bytes for which there is room, and then none is left. -/
lemma write_cases_of_limited {s : Shell σ ι} {stream : Stream} (h : (s.room stream).Limited)
    (text : Text) :
    ((∀ n, s.room stream = some (.upTo n) → (Utf8.encode text).length ≤ n) ∧
      write stream text s =
        ⟨.ok (), s.setRoom stream ((s.room stream).offer (Utf8.encode text)).left,
          [.wrote stream (Utf8.encode text)]⟩) ∨
    ∃ n, s.room stream = some (.upTo n) ∧ n < (Utf8.encode text).length ∧
      write stream text s =
        ⟨.error .refused, s.setRoom stream (some (.upTo 0)),
          [.wrote stream ((Utf8.encode text).take n), .refused stream]⟩ := by
  rcases h.offer_cases (Utf8.encode text) with ⟨hfits, hok⟩ | ⟨n, hroom, hn, hanswer⟩
  · rcases write_cases stream text s with ⟨-, hwrite⟩ | ⟨e, herror, -⟩
    · exact Or.inl ⟨hfits, hwrite⟩
    · rw [hok] at herror
      cases herror
  · refine Or.inr ⟨n, hroom, hn, ?_⟩
    unfold write
    rw [hanswer]
    rfl

/-- On a standard output that fails for want of room only, a flush is nothing but its event. -/
lemma flush_of_limited {s : Shell σ ι} (h : (s.room .out).Limited) :
    flush s = ⟨.ok (), s, [.flushed]⟩ := by
  unfold flush
  simp only [h.flush_eq, Shell.setRoom_room]
  rfl

/-- A stream that takes everything takes a write whole. -/
lemma write_of_room_none {s : Shell σ ι} {stream : Stream} (h : s.room stream = none)
    (text : Text) : write stream text s = ⟨.ok (), s, [.wrote stream (Utf8.encode text)]⟩ := by
  have hroom : s.setRoom stream none = s := by
    rw [← h, Shell.setRoom_room]
  unfold write
  simp only [h, Room.offer_none, hroom]
  rfl

/-- What a command prints on a stream that takes everything. -/
lemma print_of_room_none {s : Shell σ ι} {stream : Stream} (h : s.room stream = none)
    (text : Text) : print stream text s = ⟨.ok (), s, [.wrote stream (Utf8.encode text)]⟩ := by
  unfold print mapError
  rw [write_of_room_none h]
  rfl

/-- What a command flushes on a standard output that takes everything. -/
lemma drain_of_room_none {s : Shell σ ι} (h : s.room .out = none) :
    drain s = ⟨.ok (), s, [.flushed]⟩ := by
  have hlimited : (s.room .out).Limited := by
    rw [h]
    exact Room.limited_none
  unfold drain mapError
  rw [flush_of_limited hlimited]
  rfl

/-- A write over an unlimited shell is nothing but its event. -/
lemma write_of_unlimited {s : Shell σ ι} (hs : s.Unlimited) (stream : Stream) (text : Text) :
    write stream text s = ⟨.ok (), s, [.wrote stream (Utf8.encode text)]⟩ :=
  write_of_room_none (hs.room stream) text

/-- A flush over an unlimited shell is nothing but its event. -/
lemma flush_of_unlimited {s : Shell σ ι} (hs : s.Unlimited) :
    flush s = ⟨.ok (), s, [.flushed]⟩ :=
  flush_of_limited (hs.limited.room .out)

end Action

/-- A host on which every command succeeds without doing anything, there are no files, and no time
passes. -/
def Host.idle : Host Unit where
  run _ s := (⟨.ok 0, []⟩, s)
  fileSize _ s := (.error ⟨some 2, "No such file or directory".toList⟩, s)
  timeOfDay s := (0, s)
  elapsed s := (0, s)

/-! ## What is read off events -/

namespace Event

/-- The number of times the source of lines looked at its input. -/
def consultations (events : List Event) : ℕ :=
  events.countP fun
    | .consulted => true
    | _ => false

@[simp]
lemma consultations_append (es fs : List Event) :
    consultations (es ++ fs) = consultations es + consultations fs :=
  List.countP_append

/-- The session that the changes among some events make of a session. -/
def replay (session : Session) (events : List Event) : Session :=
  (changes events).foldl Session.apply session

@[simp]
lemma replay_append (session : Session) (es fs : List Event) :
    replay session (es ++ fs) = replay (replay session es) fs := by
  unfold replay
  rw [changes_append, List.foldl_append]

/-- What none of the changes among some events alters is left as it is by all of them. -/
lemma replay_congr {β : Type} (f : Session → β) {events : List Event}
    (h : ∀ c ∈ changes events, ∀ session : Session, f (session.apply c) = f session)
    (session : Session) : f (replay session events) = f session := by
  unfold replay
  generalize changes events = cs at h
  induction cs generalizing session with
  | nil => rfl
  | cons c cs ih =>
    rw [List.foldl_cons, ih _ fun c' hc' => h c' (List.mem_cons_of_mem c hc'),
      h c List.mem_cons_self]

end Event

end LineShell
