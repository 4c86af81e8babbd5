import Mathlib
import Waymark.Exchange.Transport

/-! # What a call ends in

    A call sends at most one request, and what comes of it is decided in a few steps, each of
    which may fail in its own way:

    * the parameter is written (`Transport.perform_of_unwritable`);
    * the target is made of the route and the query (`Target.Sendable` is the exact condition);
    * the handler answers, raises an exception of its package, or the call is given up
      (`Behaviour`);
    * an answer is read by its status (`Ends`).

    The exceptions of the package are nested as its classes are. A call takes up those below
    `HTTPError` only, so there are exceptions that no response stands for
    (`Breakdown.ofName?_outside`), and a refused target is one of them.
-/

namespace Waymark.Exchange

open Waymark.Api (Registry ClassInfo)

/-! ## Exceptions of the package

    Each type stands for a class with the classes that extend it; `itself` is the class where
    it is raised directly. -/

inductive TimeoutFault where
  | itself | connect | read | write | pool

inductive NetworkFault where
  | itself | connect | read | write | close

inductive ProtocolFault where
  | itself | ours | theirs

inductive TransferFault where
  | itself
  | timeout (f : TimeoutFault)
  | network (f : NetworkFault)
  | protocol (f : ProtocolFault)
  | proxy
  | unsupportedProtocol

inductive RequestFault where
  | itself
  | transfer (f : TransferFault)
  | decoding
  | tooManyRedirects

inductive HttpFault where
  | itself
  | request (f : RequestFault)
  | status

inductive StreamFault where
  | itself | consumed | closed | responseNotRead | requestNotRead

/-- The exceptions of the package. Only some of them are below its `HTTPError`. -/
inductive PackageFault where
  | http (f : HttpFault)
  | invalidUrl
  | cookieConflict
  | stream (f : StreamFault)

def TimeoutFault.name : TimeoutFault → String
  | .itself => "TimeoutException"
  | .connect => "ConnectTimeout"
  | .read => "ReadTimeout"
  | .write => "WriteTimeout"
  | .pool => "PoolTimeout"

def NetworkFault.name : NetworkFault → String
  | .itself => "NetworkError"
  | .connect => "ConnectError"
  | .read => "ReadError"
  | .write => "WriteError"
  | .close => "CloseError"

def ProtocolFault.name : ProtocolFault → String
  | .itself => "ProtocolError"
  | .ours => "LocalProtocolError"
  | .theirs => "RemoteProtocolError"

def TransferFault.name : TransferFault → String
  | .itself => "TransportError"
  | .timeout f => f.name
  | .network f => f.name
  | .protocol f => f.name
  | .proxy => "ProxyError"
  | .unsupportedProtocol => "UnsupportedProtocol"

def RequestFault.name : RequestFault → String
  | .itself => "RequestError"
  | .transfer f => f.name
  | .decoding => "DecodingError"
  | .tooManyRedirects => "TooManyRedirects"

def HttpFault.name : HttpFault → String
  | .itself => "HTTPError"
  | .request f => f.name
  | .status => "HTTPStatusError"

def StreamFault.name : StreamFault → String
  | .itself => "StreamError"
  | .consumed => "StreamConsumed"
  | .closed => "StreamClosed"
  | .responseNotRead => "ResponseNotRead"
  | .requestNotRead => "RequestNotRead"

/-- The name of the class of an exception. -/
def PackageFault.name : PackageFault → String
  | .http f => f.name
  | .invalidUrl => "InvalidURL"
  | .cookieConflict => "CookieConflict"
  | .stream f => f.name

/-- Is it for want of an answer: a timeout or a failure of the network? -/
inductive HttpFault.IsLoss : HttpFault → Prop where
  | timeout (f : TimeoutFault) : IsLoss (.request (.transfer (.timeout f)))
  | network (f : NetworkFault) : IsLoss (.request (.transfer (.network f)))

/-- A loss is known by its name, and amounts to a failure of the network. -/
theorem Breakdown.ofName?_loss {f : HttpFault} (h : f.IsLoss) :
    ∃ b, Breakdown.ofName? f.name = some b ∧ ∀ message, b.failure message = .network := by
  cases h with
  | timeout f => cases f <;> exact ⟨_, rfl, fun _ => rfl⟩
  | network f => cases f <;> exact ⟨_, rfl, fun _ => rfl⟩

/-- All others below the class are known as failures of the exchange. -/
theorem Breakdown.ofName?_exchange {f : HttpFault} (h : ¬ f.IsLoss) :
    Breakdown.ofName? f.name = some (.exchange f.name) := by
  cases f with
  | itself => rfl
  | status => rfl
  | request f =>
    cases f with
    | itself => rfl
    | decoding => rfl
    | tooManyRedirects => rfl
    | transfer f =>
      cases f with
      | itself => rfl
      | proxy => rfl
      | unsupportedProtocol => rfl
      | protocol f => cases f <;> rfl
      | timeout f => exact absurd (.timeout f) h
      | network f => exact absurd (.network f) h

/-- The exceptions that are not below the class are not known. -/
theorem Breakdown.ofName?_outside {e : PackageFault} (h : ∀ f, e ≠ .http f) :
    Breakdown.ofName? e.name = none := by
  cases e with
  | http f => exact absurd rfl (h f)
  | invalidUrl => rfl
  | cookieConflict => rfl
  | stream f => cases f <;> rfl

/-! ## Behaviours and their ends -/

/-- What the handler does with a request. -/
inductive Behaviour where
  | answers (status : Int) (body : String)
  | raises (e : PackageFault) (message : String)
  /-- The call is given up in the meantime. -/
  | cancelled

/-- What a behaviour is to the one who sent the request. -/
def Behaviour.delivery : Behaviour → Delivery
  | .answers status body => .answered status body
  | .raises e message =>
    match Breakdown.ofName? e.name with
    | some b => .broken b message
    | none => .escaped e.name message
  | .cancelled => .cancelled

/-- Is there a response to it? -/
inductive Behaviour.HasResponse : Behaviour → Prop where
  | answers (status : Int) (body : String) : HasResponse (.answers status body)
  | raises (f : HttpFault) (message : String) : HasResponse (.raises (.http f) message)

/-- Is the status a success? -/
def IsSuccess (status : Int) : Prop :=
  200 ≤ status ∧ status < 300

/-- What a call ends in, by what the handler does. -/
inductive Ends (t : Transport) (c : Call) : Behaviour → Except CallFault Response → Prop where
  /-- A success with a body of the result's kind. -/
  | answered {status : Int} {body : String} {v : Value} (h : IsSuccess status)
      (hdecode : decode body c.result = .ok v) :
      Ends t c (.answers status body) (.ok (.answered v))
  /-- A success with any other body. -/
  | misread {status : Int} {body why : String} (h : IsSuccess status)
      (hdecode : decode body c.result = .error why) :
      Ends t c (.answers status body)
        (.ok (.failed (.transport ("cannot decode result: " ++ why))))
  /-- The designated status with a body of the error's kind. -/
  | rejected {body : String} {v : Value} (h : ¬ IsSuccess t.errorStatus)
      (hdecode : decode body c.error = .ok v) :
      Ends t c (.answers t.errorStatus body) (.ok (.rejected v))
  /-- The designated status with any other body. -/
  | misreadError {body why : String} (h : ¬ IsSuccess t.errorStatus)
      (hdecode : decode body c.error = .error why) :
      Ends t c (.answers t.errorStatus body)
        (.ok (.failed (.transport ("status " ++ toString t.errorStatus
          ++ " body is not a valid error value: " ++ why))))
  /-- Any other status. -/
  | otherStatus {status : Int} {body : String} (h : ¬ IsSuccess status)
      (hother : status ≠ t.errorStatus) :
      Ends t c (.answers status body) (.ok (.failed (.status status body)))
  /-- A timeout or a failure of the network. -/
  | lost {f : HttpFault} {message : String} (h : f.IsLoss) :
      Ends t c (.raises (.http f) message) (.ok (.failed .network))
  /-- Any other failure below the class. -/
  | broken {f : HttpFault} {message : String} (h : ¬ f.IsLoss) :
      Ends t c (.raises (.http f) message)
        (.ok (.failed (.transport (f.name ++ ": " ++ message))))
  /-- Any exception outside of it goes through. -/
  | escaped {e : PackageFault} {message : String} (h : ∀ f, e ≠ .http f) :
      Ends t c (.raises e message) (.error (.escaped e.name message))
  | cancelled : Ends t c .cancelled (.error .cancelled)

variable {t : Transport} {c : Call} {b : Behaviour} {out : Except CallFault Response}

/-- There is a response exactly where one is due. -/
theorem Ends.isOk_iff (h : Ends t c b out) : (∃ response, out = .ok response) ↔ b.HasResponse := by
  cases h with
  -- only these two ways end without a response
  | escaped houtside =>
    constructor
    · rintro ⟨_, hout⟩
      cases hout
    · intro hresponse
      cases hresponse with
      | raises f message => exact absurd rfl (houtside f)
  | cancelled =>
    constructor
    · rintro ⟨_, hout⟩
      cases hout
    · intro hresponse
      cases hresponse
  | lost _ => exact ⟨fun _ => .raises _ _, fun _ => ⟨_, rfl⟩⟩
  | broken _ => exact ⟨fun _ => .raises _ _, fun _ => ⟨_, rfl⟩⟩
  | _ => exact ⟨fun _ => .answers _ _, fun _ => ⟨_, rfl⟩⟩

/-- An answer ends as its status and its body say. -/
theorem ends_receive (t : Transport) (c : Call) (status : Int) (body : String) :
    Ends t c (.answers status body) (.ok (receive status body c.result c.error t.errorStatus)) := by
  by_cases hsuccess : IsSuccess status
  · rw [receive_of_success hsuccess]
    cases hdecode : decode body c.result with
    | ok v => exact .answered hsuccess hdecode
    | error why => exact .misread hsuccess hdecode
  · by_cases hdesignated : status = t.errorStatus
    · subst hdesignated
      rw [receive_error hsuccess]
      cases hdecode : decode body c.error with
      | ok v => exact .rejected hsuccess hdecode
      | error why => exact .misreadError hsuccess hdecode
    · rw [receive_other hsuccess hdesignated]
      exact .otherStatus hsuccess hdesignated

/-- A loss is concluded to be one. -/
theorem conclude_of_loss {f : HttpFault} (h : f.IsLoss) (message : String) :
    t.conclude c (Behaviour.raises (.http f) message).delivery = .ok (.failed .network) := by
  obtain ⟨breakdown, hname, hfailure⟩ := Breakdown.ofName?_loss h
  simp only [Behaviour.delivery, PackageFault.name, hname, Transport.conclude, hfailure]

/-- Any other failure below the class is named. -/
theorem conclude_of_exchange {f : HttpFault} (h : ¬ f.IsLoss) (message : String) :
    t.conclude c (Behaviour.raises (.http f) message).delivery
      = .ok (.failed (.transport (f.name ++ ": " ++ message))) := by
  simp only [Behaviour.delivery, PackageFault.name, Breakdown.ofName?_exchange h,
    Transport.conclude, Breakdown.failure]

/-- Nothing is concluded from an exception outside of it. -/
theorem conclude_of_outside {e : PackageFault} (h : ∀ f, e ≠ .http f) (message : String) :
    t.conclude c (Behaviour.raises e message).delivery = .error (.escaped e.name message) := by
  simp only [Behaviour.delivery, Breakdown.ofName?_outside h, Transport.conclude]

/-- What a call concludes from a behaviour is an end of it. -/
theorem ends_conclude (t : Transport) (c : Call) (b : Behaviour) :
    Ends t c b (t.conclude c b.delivery) := by
  cases b with
  | answers status body => exact ends_receive t c status body
  | cancelled => exact .cancelled
  | raises e message =>
    by_cases hhttp : ∃ f, e = .http f
    · obtain ⟨f, rfl⟩ := hhttp
      by_cases hloss : f.IsLoss
      · rw [conclude_of_loss hloss]
        exact .lost hloss
      · rw [conclude_of_exchange hloss]
        exact .broken hloss
    -- what the library does not raise is caught by no clause
    · have houtside : ∀ f, e ≠ .http f := fun f heq => hhttp ⟨f, heq⟩
      rw [conclude_of_outside houtside]
      exact .escaped houtside

/-- There is no other end. -/
theorem Ends.conclude_eq (h : Ends t c b out) : t.conclude c b.delivery = out := by
  cases h with
  | answered h hdecode =>
    show Except.ok (receive _ _ _ _ _) = _
    rw [receive_of_success h, hdecode]
  | misread h hdecode =>
    show Except.ok (receive _ _ _ _ _) = _
    rw [receive_of_success h, hdecode]
  | rejected h hdecode =>
    show Except.ok (receive _ _ _ _ _) = _
    rw [receive_error h, hdecode]
  | misreadError h hdecode =>
    show Except.ok (receive _ _ _ _ _) = _
    rw [receive_error h, hdecode]
    rfl
  | otherStatus h hother =>
    show Except.ok (receive _ _ _ _ _) = _
    rw [receive_other h hother]
  -- without an answer it is the exception that decides
  | lost h => exact conclude_of_loss h _
  | broken h => exact conclude_of_exchange h _
  | escaped h => exact conclude_of_outside h _
  | cancelled => rfl

/-! ## Targets -/

namespace Target

/-- What a route without control characters stands for by itself. -/
def own (route : String) : Target :=
  let (front, _) := splitFirst (· == '#') route.toList
  let (path, query) := splitFirst (· == '?') front
  { path := Text.percentEncodeUnless inPath (String.ofList path)
    query := query.map fun q => Text.percentEncodeUnless inQuery (String.ofList q) }

/-- The route behind the base, before anything is encoded. -/
def joined (base route : String) : Target :=
  ofText (ofBase base ++ String.ofList ((own route).text.toList.dropWhile (· == '/')))

/-- The target as it is sent. -/
def encoded (t : Target) : Target where
  path := Text.percentEncodeUnless inPath (normalized t.path)
  query := t.query.map (Text.percentEncodeUnless inQuery)

/-- The target with the entries of a query. -/
def withEntries (t : Target) (entries : List (String × String)) : Target :=
  { t with query := if entries.isEmpty then none else some (queryText entries) }

/-- Neither of the two components is too long. -/
structure Short (t : Target) : Prop where
  path : t.path.length ≤ maxLength
  query : (t.query.getD "").length ≤ maxLength

/-- There is a target for the route and the entries: the route has no control character, and
    nothing on the way to the target is too long. -/
structure Sendable (base route : String) (entries : List (String × String)) : Prop where
  short : route.length ≤ maxLength
  printable : ∀ c ∈ route.toList, isControl c = false
  joinedShort : (joined base route).Short
  completeShort : ((joined base route).encoded.withEntries entries).Short

/-- What is checked is encoded, or refused for its length. -/
theorem checked_eq (t : Target) :
    (t.Short ∧ t.checked = .ok t.encoded) ∨ (¬ t.Short ∧ ∃ fault, t.checked = .error fault) := by
  unfold checked
  by_cases hpath : t.path.length > maxLength
  · right
    rw [if_pos hpath]
    exact ⟨fun h => absurd h.path (Nat.not_le.mpr hpath), _, rfl⟩
  · rw [if_neg hpath]
    by_cases hquery : (t.query.getD "").length > maxLength
    · right
      rw [if_pos hquery]
      exact ⟨fun h => absurd h.query (Nat.not_le.mpr hquery), _, rfl⟩
    · left
      rw [if_neg hquery]
      exact ⟨⟨Nat.not_lt.mp hpath, Nat.not_lt.mp hquery⟩, rfl⟩

/-- A route is taken as it is unless it is too long or has a control character. -/
theorem ofRoute_eq (route : String) :
    ((route.length ≤ maxLength ∧ ∀ c ∈ route.toList, isControl c = false)
        ∧ ofRoute route = .ok (own route)) ∨
      (¬ (route.length ≤ maxLength ∧ ∀ c ∈ route.toList, isControl c = false)
        ∧ ∃ fault, ofRoute route = .error fault) := by
  unfold ofRoute
  by_cases hlength : route.length > maxLength
  · right
    rw [if_pos hlength]
    exact ⟨fun h => absurd h.1 (Nat.not_le.mpr hlength), _, rfl⟩
  · rw [if_neg hlength]
    cases hfound : route.toList.findIdx? isControl with
    | none =>
      left
      exact ⟨⟨Nat.not_lt.mp hlength, List.findIdx?_eq_none_iff.mp hfound⟩, rfl⟩
    | some i =>
      right
      refine ⟨fun h => ?_, _, rfl⟩
      rw [List.findIdx?_eq_none_iff.mpr h.2] at hfound
      cases hfound

/-- A route that is taken as it is goes behind the base and is checked there, once as it is
    and once with the entries. -/
theorem ofRequest_of_ofRoute {base route : String} {entries : List (String × String)}
    (h : ofRoute route = .ok (own route)) :
    ofRequest base route entries
      = (joined base route).checked.bind fun t => (t.withEntries entries).checked := by
  unfold ofRequest joined withEntries
  rw [h]
  simp only [bind, Except.bind]

/-- There is a target exactly if it is sendable. -/
theorem ofRequest_eq (base route : String) (entries : List (String × String)) :
    (Sendable base route entries ∧ ∃ target, ofRequest base route entries = .ok target) ∨
      (¬ Sendable base route entries ∧ ∃ fault, ofRequest base route entries = .error fault) := by
  rcases ofRoute_eq route with ⟨⟨hlength, hprintable⟩, hroute⟩ | ⟨hrefused, fault, hroute⟩
  · rw [ofRequest_of_ofRoute hroute]
    -- the lengths are checked twice, before and after the query is added
    rcases checked_eq (joined base route) with ⟨hjoined, hchecked⟩ | ⟨hlong, fault, hchecked⟩
    · simp only [hchecked, Except.bind]
      rcases checked_eq ((joined base route).encoded.withEntries entries) with
        ⟨hcomplete, hsent⟩ | ⟨hlong, fault, hsent⟩
      · exact .inl ⟨⟨hlength, hprintable, hjoined, hcomplete⟩, _, hsent⟩
      · exact .inr ⟨fun h => hlong h.completeShort, fault, hsent⟩
    · simp only [hchecked, Except.bind]
      exact .inr ⟨fun h => hlong h.joinedShort, fault, rfl⟩
  · refine .inr ⟨fun h => hrefused ⟨h.short, h.printable⟩, fault, ?_⟩
    unfold ofRequest
    rw [hroute]
    rfl

end Target

/-! ## Calls -/

/-- The verb of a call: a parameter is posted. -/
def Call.verb (c : Call) : Verb :=
  if c.param.isSome then .post else .get

/-- What a call sends along: nothing, or the document for its parameter. -/
inductive Call.Writes (c : Call) : Option String → Prop where
  | nothing (hparam : c.param = none) : Writes c none
  | document {value : Value} {kind : Kind} {body : String} (hparam : c.param = some (value, kind))
      (hbody : encodeParam value kind = .ok body) : Writes c (some body)

/-- The parameter of the call has no document. -/
inductive Call.Unwritable (c : Call) : WriteFault → Prop where
  | intro {value : Value} {kind : Kind} {fault : WriteFault} (hparam : c.param = some (value, kind))
      (hfault : encodeParam value kind = .error fault) : Unwritable c fault

/-- A call writes something, or its parameter has no document. -/
theorem Call.writes_or_unwritable (c : Call) :
    (∃ body, c.Writes body) ∨ ∃ fault, c.Unwritable fault := by
  cases hparam : c.param with
  | none => exact .inl ⟨none, .nothing hparam⟩
  | some given =>
    obtain ⟨value, kind⟩ := given
    cases hwritten : encodeParam value kind with
    | ok body => exact .inl ⟨some body, .document hparam hwritten⟩
    | error fault => exact .inr ⟨fault, .intro hparam hwritten⟩

namespace Transport

variable {t : Transport} {r : Registry} {c : Call} {send : Request → Delivery}
  {body : Option String} {fault : WriteFault}

/-- A parameter without a document settles the call before anything is sent. -/
theorem perform_of_unwritable (h : c.Unwritable fault) :
    t.perform r c send
      = ([], .ok (.failed (.transport ("cannot encode request body: " ++ fault.message)))) := by
  obtain ⟨hparam, hfault⟩ := h
  unfold perform prepare
  simp only [hparam, hfault]

/-- Otherwise the call goes on with its target. -/
theorem perform_of_writes (h : c.Writes body) :
    t.perform r c send = match t.targetOf r c with
      | .error fault => ([], .error fault)
      | .ok target =>
        ([⟨c.verb, target, body⟩], t.conclude c (send ⟨c.verb, target, body⟩)) := by
  cases h with
  | nothing hparam =>
    have hverb : c.verb = .get := by simp [Call.verb, hparam]
    unfold perform prepare requestFor
    simp only [hparam, hverb]
    cases t.targetOf r c <;> rfl
  | document hparam hbody =>
    have hverb : c.verb = .post := by simp [Call.verb, hparam]
    unfold perform prepare requestFor
    simp only [hparam, hbody, hverb]
    cases t.targetOf r c <;> rfl

/-- The target of a node with a route and a query. -/
theorem targetOf_eq {route : String} {entries : List (String × String)}
    (hnode : r.isInstance c.node c.expected.ref = true) (hroute : r.route c.node = .ok route)
    (hquery : r.query c.node = .ok entries) :
    t.targetOf r c = (Target.ofRequest t.base route entries).mapError .target := by
  unfold targetOf
  simp only [hnode, hroute, hquery, Bool.not_true, Bool.false_eq_true, if_false]
  cases Target.ofRequest t.base route entries <;> rfl

/-! ## Main result -/

/-- **When a call ends in one response.** A parameter without a document is a failure of the
    transport, and nothing is sent. Otherwise, if there is a target, then one request is sent
    and the call ends as the handler's behaviour says; if there is none, nothing is sent and the
    call ends in a fault. So there is a response exactly if the parameter has no document, or
    there is a target and the handler answers or raises an exception below the package's
    `HTTPError`. -/
theorem perform_has_response_iff {route : String} {entries : List (String × String)}
    (handler : Request → Behaviour)
    (hnode : r.isInstance c.node c.expected.ref = true) (hroute : r.route c.node = .ok route)
    (hquery : r.query c.node = .ok entries) :
    (∀ fault, c.Unwritable fault → t.perform r c (fun q => (handler q).delivery)
      = ([], .ok (.failed (.transport ("cannot encode request body: " ++ fault.message))))) ∧
    (∀ body, c.Writes body →
      (Target.Sendable t.base route entries → ∃ target,
        Target.ofRequest t.base route entries = .ok target ∧
        ∀ out, t.perform r c (fun q => (handler q).delivery) = ([⟨c.verb, target, body⟩], out) ↔
          Ends t c (handler ⟨c.verb, target, body⟩) out) ∧
      (¬ Target.Sendable t.base route entries → ∃ fault,
        t.perform r c (fun q => (handler q).delivery) = ([], .error (.target fault)))) ∧
    ((∃ response, (t.perform r c fun q => (handler q).delivery).2 = .ok response) ↔
      (∃ fault, c.Unwritable fault) ∨
        Target.Sendable t.base route entries ∧ ∃ body target, c.Writes body ∧
          Target.ofRequest t.base route entries = .ok target ∧
          (handler ⟨c.verb, target, body⟩).HasResponse) := by
  have htarget := targetOf_eq (t := t) hnode hroute hquery
  -- what a call comes to that writes something, with a target and without one
  have hsent : ∀ body, c.Writes body → ∀ target,
      Target.ofRequest t.base route entries = .ok target →
      t.perform r c (fun q => (handler q).delivery) = ([⟨c.verb, target, body⟩],
        t.conclude c (handler ⟨c.verb, target, body⟩).delivery) := by
    intro body hwrites target hof
    rw [perform_of_writes hwrites, htarget, hof]
    rfl
  have hrefused : ∀ body, c.Writes body → ∀ fault,
      Target.ofRequest t.base route entries = .error fault →
      t.perform r c (fun q => (handler q).delivery) = ([], .error (.target fault)) := by
    intro body hwrites fault hof
    rw [perform_of_writes hwrites, htarget, hof]
    rfl
  refine ⟨fun fault h => perform_of_unwritable h, fun body hwrites => ⟨?_, ?_⟩, ?_⟩
  · intro hsendable
    rcases Target.ofRequest_eq t.base route entries with ⟨-, target, hof⟩ | ⟨hunsendable, -⟩
    · refine ⟨target, hof, fun out => ?_⟩
      rw [hsent body hwrites target hof]
      constructor
      · intro hout
        obtain rfl := (Prod.ext_iff.mp hout).2
        exact ends_conclude t c _
      · intro hends
        rw [hends.conclude_eq]
    · exact absurd hsendable hunsendable
  · intro hunsendable
    rcases Target.ofRequest_eq t.base route entries with ⟨hsendable, -⟩ | ⟨-, fault, hof⟩
    · exact absurd hsendable hunsendable
    · exact ⟨fault, hrefused body hwrites fault hof⟩
  · constructor
    · rintro ⟨response, hresponse⟩
      rcases c.writes_or_unwritable with ⟨body, hwrites⟩ | hunwritable
      · right
        rcases Target.ofRequest_eq t.base route entries with ⟨hsendable, target, hof⟩ |
          ⟨-, fault, hof⟩
        · rw [hsent body hwrites target hof] at hresponse
          have hends := ends_conclude t c (handler ⟨c.verb, target, body⟩)
          exact ⟨hsendable, body, target, hwrites, hof, hends.isOk_iff.mp ⟨response, hresponse⟩⟩
        · rw [hrefused body hwrites fault hof] at hresponse
          cases hresponse
      · exact .inl hunwritable
    · rintro (⟨fault, hunwritable⟩ | ⟨-, body, target, hwrites, hof, hhas⟩)
      · rw [perform_of_unwritable hunwritable]
        exact ⟨_, rfl⟩
      · rw [hsent body hwrites target hof]
        exact (ends_conclude t c _).isOk_iff.mpr hhas

end Transport

/-! ## A short class

    A class with one segment and without fields, and a call of its only node. -/

namespace Sample

def ref : ClassRef :=
  { serial := 0, module := "api", qualname := "A" }

def classOf (segment : String) : ClassInfo :=
  { ref, segment := some segment }

def registry (segment : String) : Registry :=
  { classes := [classOf segment] }

def call (segment : String) : Call :=
  { node := .node ref 0 [], expected := classOf segment, result := .any, error := .any }

def transport : Transport :=
  { base := "http://test" }

end Sample

theorem Transport.perform_has_response_iff_sample :
    (Sample.registry "a").isInstance (Sample.call "a").node Sample.ref = true ∧
      (Sample.registry "a").route (Sample.call "a").node = .ok "/a" ∧
      (Sample.registry "a").query (Sample.call "a").node = .ok [] ∧
      ∃ target, Sample.transport.perform (Sample.registry "a") (Sample.call "a")
          (fun _ => (Behaviour.raises (.http (.request (.transfer (.timeout .read)))) "").delivery)
        = ([⟨.get, target, none⟩], .ok (.failed .network)) := by
  have hroute : (Sample.registry "a").route (Sample.call "a").node = .ok "/a" := by rfl
  have hquery : (Sample.registry "a").query (Sample.call "a").node = .ok [] := by rfl
  obtain ⟨-, hcall, -⟩ := Transport.perform_has_response_iff (t := Sample.transport)
    (fun _ => .raises (.http (.request (.transfer (.timeout .read)))) "") rfl hroute hquery
  have hsendable : Target.Sendable Sample.transport.base "/a" [] := by
    have hjoined : Target.joined Sample.transport.base "/a" = { path := "/a" } := by cbv
    have hcomplete : ((Target.joined Sample.transport.base "/a").encoded.withEntries [])
        = { path := "/a" } := by cbv
    have hshort : Target.Short { path := "/a" } := ⟨by decide, Nat.zero_le maxLength⟩
    have hprintable : ∀ c ∈ "/a".toList, Target.isControl c = false := by
      have hchars : "/a".toList = ['/', 'a'] := rfl
      simp [hchars, Target.isControl]
    exact ⟨by decide, hprintable, hjoined ▸ hshort, hcomplete ▸ hshort⟩
  obtain ⟨target, -, hends⟩ := (hcall none (.nothing rfl)).1 hsendable
  exact ⟨rfl, hroute, hquery, target, (hends _).mpr (.lost (.timeout .read))⟩

/-- A control character in a segment has no response: the node is an instance of its class and
    has a route and a query, but a call ends in a fault whatever the handler does. -/
theorem Sample.control_character_has_no_response :
    (Sample.registry "a\x01").isInstance (Sample.call "a\x01").node Sample.ref = true ∧
      (Sample.registry "a\x01").route (Sample.call "a\x01").node = .ok "/a\x01" ∧
      (Sample.registry "a\x01").query (Sample.call "a\x01").node = .ok [] ∧
      ∀ send, Sample.transport.perform (Sample.registry "a\x01") (Sample.call "a\x01") send
        = ([], .error (.target (.unprintable '\x01' 2))) := by
  refine ⟨rfl, rfl, rfl, ?_⟩
  intro send
  rfl

end Waymark.Exchange
