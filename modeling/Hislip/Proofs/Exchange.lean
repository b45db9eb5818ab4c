import Hislip.Proofs.Conversation
import Hislip.Proofs.LastWord

/-! What follows for the client from the way a conversation goes: who asks once is answered
once and in turn, the device gets each message once, and a FatalError is the last word. -/

namespace Hislip.Proofs.Exchange
open Hislip.Server Hislip.Threads Transition Program Serving Grammar Conversation
open LastWord (Doomed grave doomed_fatal)
open scoped List

section Spoken
variable {role : Channel} {message : Message} {channel : Channel} {header : Header} {payload : Bytes}

/-- The messages of the server, and what each of them is to the message that it is about. -/
inductive Spoken (role : Channel) (message : Message) (channel : Channel) (header : Header) (payload : Bytes) :
    Deed → Prop
  | complaint (own : channel = role) (typed : header.type = .error) (known : header.control ∈ errorCodes) :
    Spoken role message channel header payload .complaint
  | timeout (own : role = .synchronous) (sync : channel = .synchronous) (typed : header.type = .error)
    (code : header.control = ErrorCode.responseTimeout) : Spoken role message channel header payload .timeout
  | fatal (own : channel = role) (typed : header.type = .fatalError) (known : header.control ∈ fatalCodes) :
    Spoken role message channel header payload .fatal
  | acknowledge (own : role = .synchronous) (sync : channel = .synchronous) (typed : header.type = .deviceClearAcknowledge)
    (control : header.control = 0) : Spoken role message channel header payload .acknowledge
  | reply (form : Form) (listed : form ∈ forms) (asked : form.request = message.header.type)
    (async : channel = .asynchronous) (typed : header.type = form.type) (control : form.controls header.control = true) :
    Spoken role message channel header payload (.reply form.polled)
  | chunk (own : role = .synchronous) (sync : channel = .synchronous) (typed : header.type = .data)
    (control : header.control = 0) :
    Spoken role message channel header payload .chunk
  | finish (own : role = .synchronous) (sync : channel = .synchronous) (typed : header.type = .dataEnd)
    (control : header.control = 0) (query : message.header.type = .dataEnd)
    (same : header.parameter = message.header.messageID) :
    Spoken role message channel header payload (.finish payload.isEmpty)
  | notice (own : role = .synchronous) (async : channel = .asynchronous) (typed : header.type = .asyncInterrupted)
    (control : header.control = 0) :
    Spoken role message channel header payload .notice
  | interrupt (own : role = .synchronous) (sync : channel = .synchronous) (typed : header.type = .interrupted)
    (control : header.control = 0) (query : message.header.type = .dataEnd)
    (same : header.parameter = message.header.messageID) :
    Spoken role message channel header payload .interrupt

theorem spoken_part (own : role = .synchronous) (proper : part message channel header payload ≠ .stray) :
    Spoken role message channel header payload (part message channel header payload) := by
  unfold part at proper ⊢
  split at proper
  next => exact absurd rfl proper
  next plain =>
    rw [if_neg plain]
    obtain ⟨query, control, same⟩ : message.header.type = .dataEnd ∧ header.control = 0 ∧
        header.parameter = message.header.messageID := by simpa using plain
    split_ifs at proper ⊢ with data ends notices interrupts
    · exact .chunk own data.2 data.1 control
    · exact .finish own ends.2 ends.1 control query same
    · exact .notice own notices.2.1 notices.1 control
    · exact .interrupt own interrupts.2.1 interrupts.1 control query same
    · exact absurd rfl proper

theorem spoken_sync (own : role = .synchronous) (proper : saidSync message channel header payload ≠ .stray) :
    Spoken role message channel header payload (saidSync message channel header payload) := by
  unfold saidSync at proper ⊢
  split at proper
  next typed =>
    rw [if_pos typed]
    split_ifs at proper ⊢ with clears
    · exact .acknowledge own clears.2.1 typed clears.2.2.1
    · exact absurd rfl proper
  next plain =>
    rw [if_neg plain]
    exact spoken_part own proper

theorem spoken_async (proper : saidAsync message channel header payload ≠ .stray) :
    Spoken role message channel header payload (saidAsync message channel header payload) := by
  unfold saidAsync at proper ⊢
  cases found : forms.find? fun form => form.request = message.header.type ∧ form.type = header.type with
  | none =>
    rw [found] at proper
    exact absurd rfl proper
  | some form =>
    rw [found] at proper
    dsimp only at proper ⊢
    obtain ⟨asked, typed⟩ : form.request = message.header.type ∧ form.type = header.type := by
      simpa using List.find?_some found
    split_ifs at proper ⊢ with answers
    · exact .reply form (List.mem_of_find?_eq_some found) asked answers.1 typed.symm answers.2.1
    · exact absurd rfl proper

theorem spoken_of_said (proper : said role message channel header payload ≠ .stray) :
    header.length = UInt64.ofNat payload.length ∧
      Spoken role message channel header payload (said role message channel header payload) := by
  unfold said at proper ⊢
  split at proper
  next => exact absurd rfl proper
  next agrees =>
    refine ⟨not_not.mp agrees, ?_⟩
    rw [if_neg agrees]
    split_ifs at proper ⊢ with typed complains late fatal known sync
    · exact .complaint complains.1 typed complains.2
    · exact .timeout late.1 late.2.1 typed late.2.2.2
    · exact absurd rfl proper
    · exact .fatal known.1 fatal known.2
    · exact absurd rfl proper
    · exact spoken_sync sync proper
    · exact spoken_async proper

end Spoken

section Walking
variable {β : Type} {role : Channel} {message : Message} {stage last : Grammar.Stage} {told : List EnvironmentOp}
  {extract : EnvironmentOp → Option β}

theorem after_proper {op : EnvironmentOp} {next : Grammar.Stage} (heard : stage.after (deed role message op) = some next) :
    deed role message op ≠ .stray := by
  intro stray
  rw [stray] at heard
  cases stage <;> cases heard

/-- What the deeds for a message yield is no more than what the message has to give. -/
theorem walk_sublist (budget : Grammar.Stage → List β)
    (step : ∀ stage op next, stage.after (deed role message op) = some next →
      (extract op).toList ++ budget next <+ budget stage)
    (walks : walk role message stage told = some last) : told.filterMap extract <+ budget stage := by
  induction told generalizing stage with
  | nil => exact List.nil_sublist _
  | cons op rest ih =>
    obtain ⟨next, heard, later⟩ := Option.bind_eq_some_iff.mp walks
    have split : (op :: rest).filterMap extract = (extract op).toList ++ rest.filterMap extract := by
      rw [List.filterMap_cons]
      cases extract op <;> rfl
    rw [split]
    exact ((ih later).append_left _).trans (step stage op next heard)

def messages (turns : List Turn) : List Message :=
  turns.filterMap fun
    | .message message => some message
    | .ending _ => none

theorem converses_sublist (budget : Message → Grammar.Stage → List β)
    (step : ∀ message stage op next, stage.after (deed role message op) = some next →
      (extract op).toList ++ budget message next <+ budget message stage)
    {turns : List Turn} (converses : Converses role turns told) :
    told.filterMap extract <+ (messages turns).flatMap fun message => budget message .start := by
  induction converses with
  | waits turns => exact List.nil_sublist _
  | @handles message rest deeds last walks =>
    exact (walk_sublist (budget message) (step message) walks).trans (List.sublist_append_left _ _)
  | @settles message rest deeds more last walks settled converses ih =>
    rw [List.filterMap_append]
    exact (walk_sublist (budget message) (step message) walks).append ih

end Walking

section Responses
variable {role : Channel} {message : Message} {stage next : Grammar.Stage} {op : EnvironmentOp}

/-- The end of a response, and the query that it is the end for. -/
def terminates : EnvironmentOp → Option MessageID
  | .send .synchronous header _ =>
    if header.type = .dataEnd ∨ header.type = .interrupted then some header.parameter else none
  | _ => none

def queries (message : Message) : List MessageID :=
  if message.header.type = .dataEnd then [message.header.messageID] else []

def unanswered : Grammar.Stage → Bool
  | .answered | .closed | .ended => false
  | _ => true

theorem unanswered_back {deed : Deed} (heard : stage.after deed = some next) (unsaid : unanswered next = true) :
    unanswered stage = true := by
  cases stage with
  | answered | closed | ended => cases deed <;> cases heard <;> cases unsaid
  | _ => rfl

theorem ends_answered {deed : Deed} (heard : stage.after deed = some next)
    (ends : deed = .interrupt ∨ ∃ empty, deed = .finish empty) : unanswered stage = true ∧ unanswered next = false := by
  rcases ends with rfl | ⟨empty, rfl⟩
  · cases stage <;> cases heard
    exact ⟨rfl, rfl⟩
  · cases stage <;> cases empty <;> cases heard <;> exact ⟨rfl, rfl⟩

theorem terminates_spoken {id : MessageID} (ends : terminates op = some id) (proper : deed role message op ≠ .stray) :
    queries message = [id] ∧
      (deed role message op = .interrupt ∨ ∃ empty, deed role message op = .finish empty) := by
  cases op with
  | send channel header payload =>
    obtain ⟨typed, rfl⟩ : (header.type = .dataEnd ∨ header.type = .interrupted) ∧ header.parameter = id := by
      cases channel with
      | synchronous =>
        simp only [terminates] at ends
        split at ends
        next typed => exact ⟨typed, Option.some.inj ends⟩
        next => cases ends
      | _ => cases ends
    have spoken := (spoken_of_said proper).2
    have same : deed role message (.send channel header payload) = said role message channel header payload := rfl
    rw [same]
    generalize said role message channel header payload = spoke at spoken
    cases spoken with
    | finish _ _ _ _ query same => exact ⟨by rw [queries, if_pos query, same], .inr ⟨_, rfl⟩⟩
    | interrupt _ _ _ _ query same => exact ⟨by rw [queries, if_pos query, same], .inl rfl⟩
    | reply form listed _ _ other =>
      rw [other] at typed
      exact absurd typed ((by decide : ∀ form ∈ forms, ¬ (form.type = .dataEnd ∨ form.type = .interrupted)) form listed)
    | complaint _ other _ | fatal _ other _ | timeout _ _ other _ | acknowledge _ _ other _ | chunk _ _ other _
    | notice _ _ other _ =>
      rw [other] at typed
      exact absurd typed (by decide)
  | _ => cases ends

theorem terminates_step (message : Message) (stage : Grammar.Stage) (op : EnvironmentOp) (next : Grammar.Stage)
    (heard : stage.after (deed role message op) = some next) :
    (terminates op).toList ++ (if unanswered next then queries message else []) <+
      if unanswered stage then queries message else [] := by
  cases ends : terminates op with
  | some id =>
    obtain ⟨asked, finishes⟩ := terminates_spoken ends (after_proper heard)
    obtain ⟨before, after⟩ := ends_answered heard finishes
    simp [before, after, asked]
  | none =>
    cases unsaid : unanswered next with
    | false => simp
    | true => simp [unanswered_back heard unsaid]

end Responses

section Device
variable {role : Channel} {message : Message}

/-- The calls by which a message reaches the device. The reads of a response are not among them. -/
def delivers : EnvironmentOp → Option EnvironmentOp
  | .write ctx payload last => some (.write ctx payload last)
  | .trigger ctx => some (.trigger ctx)
  | .clear ctx => some (.clear ctx)
  | .readStatusByte ctx => some (.readStatusByte ctx)
  | .remoteLocal ctx mode => some (.remoteLocal ctx mode)
  | _ => none

def orders (role : Channel) (message : Message) : List EnvironmentOp :=
  if role = .synchronous then
    if message.header.type = .data ∨ message.header.type = .dataEnd then
      [.write .server message.payload (decide (message.header.type = .dataEnd))]
    else if message.header.type = .trigger then [.trigger .server]
    else if message.header.type = .deviceClearComplete then [.clear .server]
    else []
  else if message.header.type = .asyncStatusQuery then [.readStatusByte .server]
  else if message.header.type = .asyncRemoteLocalControl ∧ message.header.control ≤ 6 then
    [.remoteLocal .server message.header.control]
  else []

theorem hands_orders {op : EnvironmentOp} (handed : hands role message op = true) : orders role message = [op] := by
  have types : MessageType.trigger ≠ .data ∧ MessageType.trigger ≠ .dataEnd ∧ MessageType.deviceClearComplete ≠ .data ∧
      MessageType.deviceClearComplete ≠ .dataEnd ∧ MessageType.deviceClearComplete ≠ .trigger ∧
      MessageType.asyncRemoteLocalControl ≠ .asyncStatusQuery := by decide
  cases op with
  | write ctx payload last =>
    obtain ⟨rfl, rfl, typed, rfl, rfl⟩ := of_decide_eq_true handed
    simp [orders, typed]
  | trigger ctx =>
    obtain ⟨rfl, rfl, typed⟩ := of_decide_eq_true handed
    simp [orders, typed, types]
  | clear ctx =>
    obtain ⟨rfl, rfl, typed⟩ := of_decide_eq_true handed
    simp [orders, typed, types]
  | readStatusByte ctx =>
    obtain ⟨rfl, rfl, typed⟩ := of_decide_eq_true handed
    simp [orders, typed]
  | remoteLocal ctx mode =>
    obtain ⟨rfl, rfl, typed, rfl, valid⟩ := of_decide_eq_true handed
    simp [orders, typed, types, valid]
  | _ => cases handed

theorem delivers_handed {op call : EnvironmentOp} (calls : delivers op = some call)
    (proper : deed role message op ≠ .stray) : deed role message op = .handed ∧ orders role message = [call] := by
  have handed (same : deed role message op = if hands role message op then .handed else .stray) :
      deed role message op = .handed ∧ orders role message = [op] := by
    rw [same] at proper ⊢
    split at proper
    next yes => exact ⟨if_pos yes, hands_orders yes⟩
    next => exact absurd rfl proper
  cases op with
  | write _ _ _ | trigger _ | clear _ | readStatusByte _ | remoteLocal _ _ =>
    cases calls
    exact handed rfl
  | _ => cases calls

theorem start_back {stage : Grammar.Stage} {deed : Deed} (heard : stage.after deed = some .start) : stage = .start := by
  cases stage with
  | start => rfl
  | _ =>
    cases deed with
    | reply polled => cases polled <;> cases heard
    | finish empty => cases empty <;> cases heard
    | _ => cases heard

theorem delivers_step (message : Message) (stage : Grammar.Stage) (op : EnvironmentOp) (next : Grammar.Stage)
    (heard : stage.after (deed role message op) = some next) :
    (delivers op).toList ++ (if next = .start then orders role message else []) <+
      if stage = .start then orders role message else [] := by
  cases calls : delivers op with
  | some call =>
    obtain ⟨handed, asked⟩ := delivers_handed calls (after_proper heard)
    rw [handed] at heard
    cases stage <;> cases heard
    simp [asked]
  | none =>
    by_cases first : next = .start
    · subst first
      simp [start_back heard]
    · simp [first]

end Device

section Replies
variable {message : Message} {stage last : Grammar.Stage} {told : List EnvironmentOp} {next : Grammar.Stage}
  {op : EnvironmentOp}

def sends : EnvironmentOp → Option Header
  | .send _ header _ => some header
  | _ => none

def Answers (message : Message) (header : Header) : Prop :=
  header.type = .error ∨ header.type = .fatalError ∨
    ∃ form ∈ forms, form.request = message.header.type ∧ header.type = form.type

def Replied (message : Message) (reply : Option Header) : Prop :=
  reply.elim (owed .asynchronous message = false) (Answers message)

theorem said_loud (role channel : Channel) (message : Message) (header : Header) (payload : Bytes) :
    said role message channel header payload ≠ .silent := by
  intro silent
  have proper : said role message channel header payload ≠ .stray := by
    rw [silent]
    exact Deed.noConfusion
  have spoken := (spoken_of_said proper).2
  rw [silent] at spoken
  cases spoken

theorem silent_sends {role : Channel} (silent : deed role message op = .silent) : sends op = none := by
  cases op with
  | send channel header payload => exact absurd silent (said_loud role channel message header payload)
  | _ => rfl

theorem walk_shut {role : Channel} (shut : stage = .closed ∨ stage = .ended) (walks :
      walk role message stage told = some last) :
    told.filterMap sends = [] ∧ last = stage := by
  induction told with
  | nil => exact ⟨rfl, (Option.some.inj walks).symm⟩
  | cons op rest ih =>
    obtain ⟨next, heard, later⟩ := Option.bind_eq_some_iff.mp walks
    have silent : deed role message op = .silent ∧ next = stage := by
      rcases shut with rfl | rfl <;> cases said : deed role message op <;> rw [said] at heard <;> cases heard <;>
        exact ⟨rfl, rfl⟩
    rw [silent.2] at later
    rw [List.filterMap_cons, silent_sends silent.1]
    exact ih later

theorem spoken_shuts {channel : Channel} {header : Header} {payload : Bytes} {spoke : Deed}
    (spoken : Spoken .asynchronous message channel header payload spoke) (early : stage = .start ∨ stage = .taken)
    (heard : stage.after spoke = some next) : (next = .closed ∨ next = .ended) ∧ Answers message header := by
  cases spoken with
  | complaint _ typed _ =>
    refine ⟨.inl ?_, .inl typed⟩
    rcases early with rfl | rfl <;> cases heard <;> rfl
  | fatal _ typed _ =>
    refine ⟨.inr ?_, .inr (.inl typed)⟩
    rcases early with rfl | rfl <;> cases heard <;> rfl
  | reply form listed asked _ typed _ =>
    refine ⟨.inl ?_, .inr (.inr ⟨form, listed, asked, typed⟩)⟩
    generalize form.polled = polled at heard
    rcases early with rfl | rfl <;> cases polled <;> cases heard <;> rfl
  | timeout own | acknowledge own | chunk own | finish own | notice own | interrupt own => cases own

theorem unsaid_early (unsaid : sends op = none) (early : stage = .start ∨ stage = .taken)
    (heard : stage.after (deed .asynchronous message op) = some next) : next = .start ∨ next = .taken := by
  have quiet : deed .asynchronous message op = .handed ∨ deed .asynchronous message op = .silent := by
    have proper := after_proper heard
    cases op with
    | send channel header payload => cases unsaid
    | read ctx size => exact absurd rfl proper
    | pending | select _ | remaining | exhausted => exact .inr rfl
    | write _ _ _ | trigger _ | clear _ | readStatusByte _ | remoteLocal _ _ =>
      exact .inl (delivers_handed rfl proper).1
  rcases quiet with handed | silent
  · rw [handed] at heard
    rcases early with rfl | rfl <;> cases heard
    exact .inr rfl
  · rw [silent] at heard
    rcases early with rfl | rfl <;> cases heard
    · exact .inl rfl
    · exact .inr rfl

theorem walk_async (early : stage = .start ∨ stage = .taken) (walks : walk .asynchronous message stage told = some last) :
    told.filterMap sends = [] ∧ (last = .start ∨ last = .taken) ∨
      ∃ header, told.filterMap sends = [header] ∧ Answers message header := by
  induction told generalizing stage with
  | nil =>
    cases walks
    exact .inl ⟨rfl, early⟩
  | cons op rest ih =>
    obtain ⟨next, heard, later⟩ := Option.bind_eq_some_iff.mp walks
    cases unsaid : sends op with
    | none =>
      rw [List.filterMap_cons, unsaid]
      exact ih (unsaid_early unsaid early heard) later
    | some header =>
      cases op with
      | send channel header payload =>
        obtain ⟨shut, answers⟩ := spoken_shuts (spoken_of_said (after_proper heard)).2 early heard
        refine .inr ⟨header, ?_, answers⟩
        rw [List.filterMap_cons, (walk_shut shut later).1]
        rfl
      | _ => cases unsaid

theorem converses_replies {turns : List Turn} (converses : Converses .asynchronous turns told) :
    ∃ handled replies, handled <+: messages turns ∧ List.Forall₂ Replied handled replies ∧
      told.filterMap sends = replies.reduceOption := by
  induction converses with
  | waits turns => exact ⟨[], [], List.nil_prefix, .nil, rfl⟩
  | @handles message rest deeds last walks =>
    rcases walk_async (.inl rfl) walks with ⟨unsaid, -⟩ | ⟨header, said, answers⟩
    · exact ⟨[], [], List.nil_prefix, .nil, unsaid⟩
    · exact ⟨[message], [some header], ⟨messages rest, rfl⟩, .cons answers .nil, said⟩
  | @settles message rest deeds more last walks settled converses ih =>
    obtain ⟨handled, replies, ⟨later, unhandled⟩, replied, said⟩ := ih
    have onward : message :: handled <+: messages (.message message :: rest) := ⟨later, congrArg (message :: ·) unhandled⟩
    rcases walk_async (.inl rfl) walks with ⟨unsaid, early⟩ | ⟨header, first, answers⟩
    · refine ⟨message :: handled, none :: replies, onward, .cons ?_ replied, ?_⟩
      · cases owes : owed .asynchronous message with
        | false => exact owes
        | true => rcases early with rfl | rfl <;> rcases settled.2 owes with impossible | impossible <;> cases impossible
      · rw [List.filterMap_append, unsaid, said]
        rfl
    · refine ⟨message :: handled, some header :: replies, onward, .cons answers replied, ?_⟩
      rw [List.filterMap_append, first, said]
      rfl

end Replies

section Words
variable {role : Channel} {message : Message} {told : List EnvironmentOp}

def plainTypes : List MessageType :=
  [.initializeResponse, .asyncInitializeResponse, .data, .dataEnd, .interrupted, .asyncInterrupted,
    .deviceClearAcknowledge]

/-- The headers that the server uses: a message of its own with a control code that means something. -/
def Worded (header : Header) : Prop :=
  header.type ∈ plainTypes ∧ header.control = 0 ∨
    header.type = .error ∧ header.control ∈ ErrorCode.responseTimeout :: errorCodes ∨
    header.type = .fatalError ∧ header.control ∈ fatalCodes ∨
    ∃ form ∈ forms, header.type = form.type ∧ form.controls header.control = true

/-- A message that is legal on its channel, with the length of its payload in the header. -/
def Proper : EnvironmentOp → Prop
  | .send channel header payload =>
    header.type.legalOn channel = true ∧ header.length = UInt64.ofNat payload.length ∧ Worded header
  | _ => True

section
variable (known : role = .synchronous ∨ role = .asynchronous)
include known

theorem spoken_proper {channel : Channel} {header : Header} {payload : Bytes} {spoke : Deed}
    (spoken : Spoken role message channel header payload spoke) :
    header.type.legalOn channel = true ∧ Worded header := by
  have plain {type : MessageType} (listed : type ∈ plainTypes) (typed : header.type = type) (control : header.control = 0)
      (legal : type.legalOn channel = true) : header.type.legalOn channel = true ∧ Worded header := by
    rw [← typed] at listed legal
    exact ⟨legal, .inl ⟨listed, control⟩⟩
  cases spoken with
  | complaint own typed code =>
    subst own
    refine ⟨?_, .inr (.inl ⟨typed, List.mem_cons_of_mem _ code⟩)⟩
    rw [typed]
    rcases known with rfl | rfl <;> rfl
  | timeout _ sync typed code =>
    refine ⟨?_, .inr (.inl ⟨typed, ?_⟩)⟩
    · rw [typed, sync]
      rfl
    · rw [code]
      exact List.mem_cons_self
  | fatal own typed code =>
    subst own
    refine ⟨?_, .inr (.inr (.inl ⟨typed, code⟩))⟩
    rw [typed]
    rcases known with rfl | rfl <;> rfl
  | reply form listed _ async typed control =>
    refine ⟨?_, .inr (.inr (.inr ⟨form, listed, typed, control⟩))⟩
    rw [typed, async]
    exact (by decide : ∀ form ∈ forms, form.type.legalOn .asynchronous = true) form listed
  | acknowledge _ there typed control | chunk _ there typed control | finish _ there typed control
  | notice _ there typed control | interrupt _ there typed control =>
    exact plain (by decide) typed control (by rw [there]; rfl)

theorem walk_proper {stage last : Grammar.Stage} (walks : walk role message stage told = some last) :
    ∀ op ∈ told, Proper op := by
  induction told generalizing stage with
  | nil => exact fun _ => nofun
  | cons op rest ih =>
    obtain ⟨next, heard, later⟩ := Option.bind_eq_some_iff.mp walks
    refine List.forall_mem_cons.mpr ⟨?_, ih later⟩
    cases op with
    | send channel header payload =>
      obtain ⟨agrees, spoken⟩ := spoken_of_said (after_proper heard)
      obtain ⟨legal, worded⟩ := spoken_proper known spoken
      exact ⟨legal, agrees, worded⟩
    | _ => trivial

theorem converses_proper {turns : List Turn} (converses : Converses role turns told) : ∀ op ∈ told, Proper op := by
  induction converses with
  | waits turns => exact fun _ => nofun
  | handles walks => exact walk_proper known walks
  | settles walks _ _ ih =>
    intro op member
    rcases List.mem_append.mp member with mine | more
    · exact walk_proper known walks op mine
    · exact ih op more

end

theorem serves_proper {limit : UInt64} {call : Call limit} (serves : Serves call told) : ∀ op ∈ told, Proper op := by
  rcases serves with rfl | ⟨op, ⟨header, payload, rfl, typed, known, agrees⟩, rfl⟩ |
    ⟨role, turns, op, more, -, ⟨header, rfl, control, plain, which⟩, converses, rfl⟩
  · exact fun _ => nofun
  · intro _ member
    rw [List.mem_singleton.mp member]
    exact ⟨by rw [typed]; rfl, agrees, .inr (.inr (.inl ⟨typed, known⟩))⟩
  · have known : role = .synchronous ∨ role = .asynchronous := which.imp And.left And.left
    refine List.forall_mem_cons.mpr ⟨?_, converses_proper known converses⟩
    rcases which with ⟨rfl, typed⟩ | ⟨rfl, typed⟩
    · exact ⟨by rw [typed]; rfl, plain, .inl ⟨by rw [typed]; decide, control⟩⟩
    · exact ⟨by rw [typed]; rfl, plain, .inl ⟨by rw [typed]; decide, control⟩⟩

end Words

section Last
variable {phase : Place × Bool} {op : ServerOp} {past : List (Performed ServerOp.Reply)} {out : EnvironmentOp}

def fatal : EnvironmentOp → Bool
  | .send _ header _ => header.type = .fatalError
  | _ => false

theorem fatal_outward (told : outward op = some out) (ends : fatal out = true) : LastWord.fatal op = true := by
  cases op with
  | environment op => cases op <;> cases told <;> exact ends
  | _ => cases told

theorem cleans_outward (cleans : LastWord.cleans op = true) : outward op = none := by
  cases op with
  | environment op => cases cleans
  | _ => rfl

theorem doomed_deeds (doomed : Doomed phase) (kept : (conduct grave).Kept phase past) :
    deeds past = [] ∧ Doomed ((conduct grave).after phase past) := by
  induction past generalizing phase with
  | nil => exact ⟨rfl, doomed⟩
  | cons event rest ih =>
    obtain ⟨allowed, -, later⟩ := kept
    have quiet : outward event.operation = none := by
      rcases doomed.cleans allowed with clean | ⟨-, counter, counts⟩
      · exact cleans_outward clean
      · rw [counts]
        rfl
    obtain ⟨nothing, doomed⟩ := ih (doomed.next event.reply allowed) later
    refine ⟨?_, doomed⟩
    rw [deeds, List.filterMap_cons, quiet]
    exact nothing

theorem fatal_last (kept : (conduct grave).Kept phase past) {before after : List EnvironmentOp}
    (told : deeds past = before ++ out :: after) (ends : fatal out = true) :
    after = [] ∧ Doomed ((conduct grave).after phase past) := by
  induction past generalizing phase before with
  | nil => cases before <;> cases told
  | cons event rest ih =>
    obtain ⟨allowed, -, later⟩ := kept
    cases shown : outward event.operation with
    | none =>
      rw [deeds, List.filterMap_cons, shown] at told
      exact ih later told
    | some first =>
      rw [deeds, List.filterMap_cons, shown] at told
      cases before with
      | nil =>
        obtain ⟨rfl, rest_told⟩ := List.cons.inj told
        obtain ⟨nothing, doomed⟩ := doomed_deeds (doomed_fatal allowed (fatal_outward shown ends)) later
        exact ⟨rest_told.symm.trans nothing, doomed⟩
      | cons other before => exact ih later (List.cons.inj told).2

end Last

section Serving
variable {β : Type} {limit : UInt64} {call : Call limit} {told : List EnvironmentOp}

theorem opening_word {op : EnvironmentOp} (first : Refuses op ∨ ∃ role, Greets role op) :
    ∃ channel header payload, op = .send channel header payload ∧
      header.type ∈ [MessageType.fatalError, .initializeResponse, .asyncInitializeResponse] := by
  rcases first with ⟨header, payload, rfl, typed, -⟩ | ⟨role, header, rfl, -, -, ⟨-, typed⟩ | ⟨-, typed⟩⟩
  · exact ⟨_, header, payload, rfl, by rw [typed]; decide⟩
  · exact ⟨_, header, [], rfl, by rw [typed]; decide⟩
  · exact ⟨_, header, [], rfl, by rw [typed]; decide⟩

theorem serves_sublist {extract : EnvironmentOp → Option β} (budget : Channel → Message → Grammar.Stage → List β)
    (first : ∀ op, (Refuses op ∨ ∃ role, Greets role op) → extract op = none)
    (step : ∀ role message stage op next, stage.after (deed role message op) = some next →
      (extract op).toList ++ budget role message next <+ budget role message stage)
    (serves : Serves call told) :
    told.filterMap extract <+
      (connection call).elim [] fun served => (messages served.2).flatMap fun message => budget served.1 message .start := by
  rcases serves with rfl | ⟨op, refuses, rfl⟩ | ⟨role, turns, op, more, served, greets, converses, rfl⟩
  · exact List.nil_sublist _
  · rw [List.filterMap_cons, first op (.inl refuses)]
    exact List.nil_sublist _
  · rw [List.filterMap_cons, first op (.inr ⟨role, greets⟩), served]
    exact converses_sublist (budget role) (step role) converses

theorem serves_replies {turns : List Turn} (served : connection call = some (.asynchronous, turns))
    (serves : Serves call told) :
    ∃ handled replies, handled <+: messages turns ∧ List.Forall₂ Replied handled replies ∧
      told.tail.filterMap sends = replies.reduceOption := by
  rcases serves with rfl | ⟨op, -, rfl⟩ | ⟨role, others, op, more, also, -, converses, rfl⟩
  · exact ⟨[], [], List.nil_prefix, .nil, rfl⟩
  · exact ⟨[], [], List.nil_prefix, .nil, rfl⟩
  · rw [served] at also
    cases also
    exact converses_replies converses

end Serving

section Runs
variable {σ : Type}

/-- Each query gets one end of a response at most, and they come in the order of the queries.
A response is matched to its query by the MessageID that it carries, and by nothing else. -/
theorem responses_once (profile : Profile) (policy : ResponsePolicy σ)
    (moves : List (Move (Call profile.maxRxPayload) Outside)) :
    Always (Calls.step policy)
      (fun calls => ∀ thread ∈ calls.threads,
        (deeds thread.past).filterMap terminates <+
          (connection thread.task).elim [] fun served => (messages served.2).flatMap queries)
      moves ({ shared := {} } : Calls profile σ) := by
  refine (always_talking policy moves).mono fun calls lawful thread member => ?_
  have quiet : ∀ op, (Refuses op ∨ ∃ role, Greets role op) → terminates op = none := by
    intro op first
    obtain ⟨channel, header, payload, rfl, opens⟩ := opening_word first
    have plain : ¬ (header.type = .dataEnd ∨ header.type = .interrupted) := by
      rintro (typed | typed) <;> rw [typed] at opens <;> exact absurd opens (by decide)
    cases channel with
    | synchronous => exact if_neg plain
    | _ => rfl
  exact serves_sublist (fun _ message stage => if unanswered stage then queries message else []) quiet
    (fun _ => terminates_step) (serves_of_kept (lawful.threads thread member).kept)

/-- The device gets each message once at most, unaltered and in order, and nothing else. -/
theorem delivered_once (profile : Profile) (policy : ResponsePolicy σ)
    (moves : List (Move (Call profile.maxRxPayload) Outside)) :
    Always (Calls.step policy)
      (fun calls => ∀ thread ∈ calls.threads,
        (deeds thread.past).filterMap delivers <+
          (connection thread.task).elim [] fun served => (messages served.2).flatMap (orders served.1))
      moves ({ shared := {} } : Calls profile σ) := by
  refine (always_talking policy moves).mono fun calls lawful thread member => ?_
  have quiet : ∀ op, (Refuses op ∨ ∃ role, Greets role op) → delivers op = none := by
    intro op first
    obtain ⟨channel, header, payload, rfl, -⟩ := opening_word first
    rfl
  exact serves_sublist (fun role message stage => if stage = .start then orders role message else []) quiet
    (fun _ => delivers_step) (serves_of_kept (lawful.threads thread member).kept)

/-- After its greeting the asynchronous channel replies to one message after the other, with a
message of the right type or an error. -/
theorem replies_in_turn (profile : Profile) (policy : ResponsePolicy σ)
    (moves : List (Move (Call profile.maxRxPayload) Outside)) :
    Always (Calls.step policy)
      (fun calls => ∀ thread ∈ calls.threads, ∀ turns, connection thread.task = some (.asynchronous, turns) →
        ∃ handled replies, handled <+: messages turns ∧ List.Forall₂ Replied handled replies ∧
          (deeds thread.past).tail.filterMap sends = replies.reduceOption)
      moves ({ shared := {} } : Calls profile σ) :=
  (always_talking policy moves).mono fun _ lawful thread member _ served =>
    serves_replies served (serves_of_kept (lawful.threads thread member).kept)

/-- Whatever the server sends, it sends on a channel where that is legal, with the length of the
payload and a control code that is defined. -/
theorem sends_proper (profile : Profile) (policy : ResponsePolicy σ)
    (moves : List (Move (Call profile.maxRxPayload) Outside)) :
    Always (Calls.step policy) (fun calls => ∀ thread ∈ calls.threads, ∀ op ∈ deeds thread.past, Proper op) moves
      ({ shared := {} } : Calls profile σ) :=
  (always_talking policy moves).mono fun _ lawful thread member =>
    serves_proper (serves_of_kept (lawful.threads thread member).kept)

/-- A call says nothing after a FatalError, and it returns an error. -/
theorem fatal_final (profile : Profile) (policy : ResponsePolicy σ)
    (moves : List (Move (Call profile.maxRxPayload) Outside)) :
    Always (Calls.step policy)
      (fun calls => ∀ thread ∈ calls.threads, ∀ before out after, deeds thread.past = before ++ out :: after →
        fatal out = true → after = [] ∧ ∀ result, thread.rest = .pure result → result ≠ none)
      moves ({ shared := {} } : Calls profile σ) := by
  refine (LastWord.always_warned policy moves).mono fun calls warned thread member before out after told ends => ?_
  obtain ⟨kept, follows⟩ := warned.threads thread member
  obtain ⟨nothing, doomed⟩ := fatal_last kept told ends
  refine ⟨nothing, fun result returned => ?_⟩
  rw [returned] at follows
  exact doomed.returns follows

end Runs

end Hislip.Proofs.Exchange
