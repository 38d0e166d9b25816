/-
The helper behind its socket.  Each connection carries one request and is served by a party of
its own: it is checked against a copy of the policy in force before its command runs, or it has the
policy replaced by the one the loader returns.  The parties interleave between the check and the
command, between the command and the answer about it, and between the load and the replacement.
-/
import MacVz.Interleaving
import MacVz.PolicyGrammar

namespace MacVz

namespace Privhelper

open Interleaving

/-- `Protocol`. -/
def protocolVersion : Int := 1

/-- `Request`: what a client sends. -/
structure WireRequest where
  protocol : Int
  op : String
  command : Request

def opExec : String := ""
def opStatus : String := "status"
def opReloadPolicy : String := "reloadPolicy"

/-- Why a request was not served, each with the data its message names. -/
inductive HelperError where
  | malformed (cause : String)
  | unsupportedProtocol (got : Int)
  | notAllowed (name : String)
  | notPermitted (cause : Refusal)
  | execError (cause : String)
  | unknownOp (op : String)
  | policyReloadFailed (cause : String)

/-- The codes `Code…` of the protocol. -/
def HelperError.code : HelperError → String
  | .malformed _ => "malformed"
  | .unsupportedProtocol _ => "unsupported_protocol"
  | .notAllowed _ => "not_allowed"
  | .notPermitted _ => "not_permitted"
  | .execError _ => "exec_error"
  | .unknownOp _ => "unknown_op"
  | .policyReloadFailed _ => "policy_reload_failed"

/-- `HelperStatus`, without the version, the process ID and the times. -/
structure HelperStatus where
  allowedCommands : List String
  policyEnforced : Bool
  policyReloadable : Bool

/-- `Response`. -/
structure Response where
  stdout : String
  stderr : String
  exitCode : Int
  err : Option HelperError
  status : Option HelperStatus

/-- `AllowedCommands`. -/
def allowedCommands : List String :=
  ["ifconfig", "pfctl", "pkill", "route", "sysctl", "wg", "wireguard-go"]

def isAllowed (name : String) : Bool := name ∈ allowedCommands

/-- The places between the steps of `handle`; a connection is closed with or without its answer
having reached the client. -/
inductive ConnPC where
  | received
  | permitted (command : Request)
  | loading
  | loaded (p : Policy)
  | replying (resp : Response)
  | closed (resp : Response) (written : Bool)

/-- A connection, with what decoding its request gives. -/
structure Conn where
  input : Except String WireRequest
  pc : ConnPC

/-- A command whose process was started, and the connection it was started for. -/
structure Ran where
  conn : Nat
  command : Request

/-- The server, with the commands it has run and the policies its loader has returned, newest
first. -/
structure Server where
  policy : Option Policy
  reloadable : Bool
  conns : List Conn
  ran : List Ran
  loads : List Policy

/-- `NewServer`, `NewServerWithPolicy` and, when the first load succeeds,
`NewServerWithPolicyLoader`. -/
def Server.listening (policy : Option Policy) (reloadable : Bool) : Server :=
  ⟨policy, reloadable, [], [], policy.toList⟩

/-- What `exec` returns: the end of the command, or an error, before or after its process was
started. -/
inductive ExecResult where
  | exited (stdout stderr : String) (exitCode : Int)
  | failed (started : Bool) (stdout stderr cause : String)

/-- The process of the command was started. -/
def ExecResult.started : ExecResult → Bool
  | .exited _ _ _ => true
  | .failed started _ _ _ => started

/-- The response `handleExec` makes of the result. -/
def ExecResult.response : ExecResult → Response
  | .exited stdout stderr exitCode => ⟨stdout, stderr, exitCode, none, none⟩
  | .failed _ stdout stderr cause => ⟨stdout, stderr, -1, some (.execError cause), none⟩

/-- What lies outside the server at one step: what the loader returns, how a command ends, and
whether the write of a response succeeds. -/
structure ServerOutcome where
  load : Except String Policy
  exec : ExecResult
  written : Bool

/-- A client connects, or a connection takes its next step. -/
inductive ServerLabel where
  | accept (input : Except String WireRequest)
  | turn (place : Nat) (o : ServerOutcome)

/-- The response of `writeError`. -/
def refused (e : HelperError) : ConnPC := .replying ⟨"", "", -1, some e, none⟩

def accepted : ConnPC := .replying ⟨"", "", 0, none, none⟩

/-- `handleExec`, up to the command. -/
def Server.handleExec (s : Server) (command : Request) : ConnPC :=
  if isAllowed command.name then
    match s.policy with
    | none => .permitted command
    | some p =>
      match p.validate command with
      | .ok () => .permitted command
      | .error cause => refused (.notPermitted cause)
  else refused (.notAllowed command.name)

/-- `handle`, up to the first step that another party may come before. -/
def Server.handle (s : Server) : Except String WireRequest → ConnPC
  | .error cause => refused (.malformed cause)
  | .ok req =>
    if req.protocol ≠ 0 ∧ req.protocol ≠ protocolVersion then
      refused (.unsupportedProtocol req.protocol)
    else if req.op = opStatus then
      .replying ⟨"", "", 0, none, some ⟨allowedCommands, s.policy.isSome, s.reloadable⟩⟩
    else if req.op = opReloadPolicy then if s.reloadable then .loading else accepted
    else if req.op = opExec then s.handleExec req.command
    else refused (.unknownOp req.op)

/-- Where a connection goes next; the error of a failed write is dropped. -/
def Conn.next (conn : Conn) (s : Server) (o : ServerOutcome) : Option ConnPC :=
  match conn.pc with
  | .received => some (s.handle conn.input)
  | .permitted _ => some (.replying o.exec.response)
  | .loading =>
    match o.load with
    | .error cause => some (refused (.policyReloadFailed cause))
    | .ok p => some (.loaded p)
  | .loaded _ => some accepted
  | .replying resp => some (.closed resp o.written)
  | .closed _ _ => none

/-- What a step of a connection does to the server. -/
def Conn.effect (conn : Conn) (s : Server) (place : Nat) (o : ServerOutcome) : Server :=
  match conn.pc with
  | .permitted command =>
    if o.exec.started then { s with ran := ⟨place, command⟩ :: s.ran } else s
  | .loading =>
    match o.load with
    | .error _ => s
    | .ok p => { s with loads := p :: s.loads }
  | .loaded p => { s with policy := some p }
  | _ => s

/-- One step of the server; the connections go on in any order. -/
def Server.step (s : Server) : ServerLabel → Option Server
  | .accept input => some { s with conns := s.conns ++ [⟨input, .received⟩] }
  | .turn place o => (s.conns[place]?).bind fun conn => (conn.next s o).map fun pc =>
    { conn.effect s place o with conns := advance s.conns place (some { conn with pc := pc }) }

section

variable {s s' : Server} {l : ServerLabel} {conn : Conn} {place : Nat} {o : ServerOutcome}
  {pc : ConnPC} {t : Server} {loads : List Policy}

/-- What may have been run for a request by the time it is answered: its command where the answer
is its end, its command or nothing where running it failed, and nothing otherwise. -/
def Response.Accounts (resp : Response) (input : Except String WireRequest) (ran : List Request) :
    Prop :=
  match input, resp.err with
  | .ok req, none => if req.op = opExec then ran = [req.command] else ran = []
  | .ok req, some (.execError _) => req.op = opExec ∧ (ran = [] ∨ ran = [req.command])
  | _, _ => ran = []

/-- What becomes of a request that is received: it is answered without a command, has the policy
reloaded, or has a command that the policy in force permits. -/
theorem Server.handle_cases (s : Server) (input : Except String WireRequest) :
    (∃ resp, s.handle input = .replying resp ∧ resp.Accounts input []) ∨
      s.handle input = .loading ∧ (∃ req, input = .ok req ∧ req.op = opReloadPolicy) ∨
      ∃ req, input = .ok req ∧ req.op = opExec ∧ s.handle input = .permitted req.command ∧
        ∀ p, s.policy = some p → p.validate req.command = .ok () := by
  cases input with
  | error cause => exact Or.inl ⟨_, rfl, rfl⟩
  | ok req =>
    simp only [Server.handle]
    split
    · exact Or.inl ⟨_, rfl, rfl⟩
    split
    · rename_i hstatus
      exact Or.inl ⟨_, rfl, by simp [Response.Accounts, hstatus, opStatus, opExec]⟩
    split
    · rename_i hreload
      split
      · exact Or.inr (Or.inl ⟨rfl, req, rfl, hreload⟩)
      · exact Or.inl ⟨_, rfl, by simp [Response.Accounts, hreload, opReloadPolicy, opExec]⟩
    split
    · rename_i hexec
      unfold Server.handleExec
      split
      · split
        · rename_i hnone
          exact Or.inr (Or.inr ⟨req, rfl, hexec, rfl, by simp [hnone]⟩)
        · rename_i p hsome
          split
          · rename_i hvalid
            refine Or.inr (Or.inr ⟨req, rfl, hexec, rfl, fun q hq => ?_⟩)
            obtain rfl := Option.some.inj (hsome.symm.trans hq)
            exact hvalid
          · exact Or.inl ⟨_, rfl, rfl⟩
      · exact Or.inl ⟨_, rfl, rfl⟩
    · exact Or.inl ⟨_, rfl, rfl⟩

/-- What a party can do next, with what it does to the server. -/
inductive ConnMove (s : Server) (place : Nat) (conn : Conn) : ConnPC → Server → Prop
  | answered (resp : Response) : conn.pc = .received → resp.Accounts conn.input [] →
      ConnMove s place conn (.replying resp) s
  | reload (req : WireRequest) : conn.pc = .received → conn.input = .ok req →
      req.op = opReloadPolicy → ConnMove s place conn .loading s
  | permitted (req : WireRequest) : conn.pc = .received → conn.input = .ok req →
      req.op = opExec → (∀ p, s.policy = some p → p.validate req.command = .ok ()) →
      ConnMove s place conn (.permitted req.command) s
  | ran (command : Request) (result : ExecResult) : conn.pc = .permitted command →
      result.started = true → ConnMove s place conn (.replying result.response)
        { s with ran := ⟨place, command⟩ :: s.ran }
  | notStarted (command : Request) (stdout stderr cause : String) : conn.pc = .permitted command →
      ConnMove s place conn (.replying (ExecResult.failed false stdout stderr cause).response) s
  | failed (cause : String) : conn.pc = .loading →
      ConnMove s place conn (refused (.policyReloadFailed cause)) s
  | loaded (p : Policy) : conn.pc = .loading →
      ConnMove s place conn (.loaded p) { s with loads := p :: s.loads }
  | replaced (p : Policy) : conn.pc = .loaded p →
      ConnMove s place conn accepted { s with policy := some p }
  | written (resp : Response) (written : Bool) : conn.pc = .replying resp →
      ConnMove s place conn (.closed resp written) s

/-- What one step of a connection does, by its program counter. -/
theorem Conn.next_move (h : conn.next s o = some pc) (place : Nat) :
    ConnMove s place conn pc (conn.effect s place o) := by
  cases hpc : conn.pc with
  | received =>
    simp only [Conn.next, Conn.effect, hpc, Option.some.injEq] at h ⊢
    subst h
    rcases s.handle_cases conn.input with
      ⟨resp, heq, haccounts⟩ | ⟨heq, req, hinput, hop⟩ | ⟨req, hinput, hop, heq, hvalid⟩
    · rw [heq]
      exact .answered resp hpc haccounts
    · rw [heq]
      exact .reload req hpc hinput hop
    · rw [heq]
      exact .permitted req hpc hinput hop hvalid
  | permitted command =>
    simp only [Conn.next, Conn.effect, hpc, Option.some.injEq] at h ⊢
    subst h
    split
    · rename_i hstarted
      exact .ran command o.exec hpc hstarted
    · rename_i hfailed
      cases hexec : o.exec with
      | exited => simp [hexec, ExecResult.started] at hfailed
      | failed started stdout stderr cause =>
        obtain rfl : started = false := by simpa [hexec, ExecResult.started] using hfailed
        exact .notStarted command stdout stderr cause hpc
  | loading =>
    simp only [Conn.next, Conn.effect, hpc] at h ⊢
    cases hload : o.load with
    | error cause =>
      rw [hload] at h
      cases h
      exact .failed cause hpc
    | ok p =>
      rw [hload] at h
      cases h
      exact .loaded p hpc
  | loaded p =>
    simp only [Conn.next, Conn.effect, hpc, Option.some.injEq] at h ⊢
    subst h
    exact .replaced p hpc
  | replying resp =>
    simp only [Conn.next, Conn.effect, hpc, Option.some.injEq] at h ⊢
    subst h
    exact .written resp o.written hpc
  | closed resp written => simp [Conn.next, hpc] at h

theorem ConnMove.conns_eq (h : ConnMove s place conn pc t) : t.conns = s.conns := by
  cases h <;> rfl

/-- A step accepts a connection, or a connection moves. -/
theorem Server.step_cases (h : s.step l = some s') :
    (∃ input, l = .accept input ∧ s' = { s with conns := s.conns ++ [⟨input, .received⟩] }) ∨
      ∃ place o conn pc t, l = .turn place o ∧ s.conns[place]? = some conn ∧
        ConnMove s place conn pc t ∧
        s' = { t with conns := advance s.conns place (some { conn with pc := pc }) } := by
  cases l with
  | accept input => exact Or.inl ⟨input, rfl, (Option.some.inj h).symm⟩
  | turn place o =>
    obtain ⟨conn, hconn, hnext⟩ := Option.bind_eq_some_iff.mp h
    obtain ⟨pc, hpc, rfl⟩ := Option.map_eq_some_iff.mp hnext
    exact Or.inr ⟨place, o, conn, pc, _, rfl, hconn, Conn.next_move hpc place, rfl⟩

/-- A policy the loader has returned permits the command. -/
def Vouched (loads : List Policy) (command : Request) : Prop :=
  ∃ p ∈ loads, p.validate command = .ok ()

/-- What a party at a place has been vouched for. -/
def ConnPC.Vouched (loads : List Policy) : ConnPC → Prop
  | .permitted command => Privhelper.Vouched loads command
  | .loaded p => p ∈ loads
  | _ => True

/-- What runs, or is about to, was permitted by a policy the helper has loaded. -/
structure Guarded (s : Server) : Prop where
  policy : ∃ p ∈ s.loads, s.policy = some p
  conns : ∀ conn ∈ s.conns, conn.pc.Vouched s.loads
  ran : ∀ r ∈ s.ran, Vouched s.loads r.command

theorem Vouched.cons {command : Request} (p : Policy) (h : Vouched loads command) :
    Vouched (p :: loads) command := by
  obtain ⟨q, hq, hvalid⟩ := h
  exact ⟨q, List.mem_cons_of_mem p hq, hvalid⟩

theorem ConnPC.Vouched.cons (p : Policy) (h : pc.Vouched loads) : pc.Vouched (p :: loads) := by
  cases pc with
  | permitted command => exact Privhelper.Vouched.cons p h
  | loaded q => exact List.mem_cons_of_mem p h
  | _ => trivial

/-- A connection's step keeps each executed request vouched for by a loaded policy. -/
theorem Guarded.move (h : Guarded s) (hconn : conn ∈ s.conns) (hmove : ConnMove s place conn pc t) :
    Guarded t ∧ pc.Vouched t.loads := by
  have hbefore := h.conns conn hconn
  obtain ⟨p, hp, hpolicy⟩ := h.policy
  cases hmove with
  | answered | reload | notStarted | failed | written => exact ⟨h, trivial⟩
  | permitted req _ _ _ hvalid => exact ⟨h, p, hp, hvalid p hpolicy⟩
  | ran command resp hpc _ =>
    rw [hpc] at hbefore
    exact ⟨⟨h.policy, h.conns, List.forall_mem_cons.mpr ⟨hbefore, h.ran⟩⟩, trivial⟩
  | loaded q hpc =>
    refine ⟨⟨⟨p, List.mem_cons_of_mem q hp, hpolicy⟩, ?_, ?_⟩, List.mem_cons_self⟩
    · exact fun conn hconn => (h.conns conn hconn).cons q
    · exact fun r hr => (h.ran r hr).cons q
  | replaced q hpc =>
    rw [hpc] at hbefore
    exact ⟨⟨⟨q, hbefore, rfl⟩, h.conns, h.ran⟩, trivial⟩

/-- A step of the server keeps every executed command vouched for. -/
theorem step_guarded (h : Guarded s) (hstep : s.step l = some s') : Guarded s' := by
  rcases Server.step_cases hstep with
    ⟨input, -, rfl⟩ | ⟨place, o, conn, pc, t, -, hconn, hmove, rfl⟩
  · refine ⟨h.policy, ?_, h.ran⟩
    exact List.forall_mem_append.mpr ⟨h.conns, List.forall_mem_singleton.mpr trivial⟩
  · obtain ⟨ht, hpc⟩ := h.move (List.mem_of_getElem? hconn) hmove
    have hconns := hmove.conns_eq
    refine ⟨ht.policy, fun conn' hconn' => ?_, ht.ran⟩
    have hpool : conn' ∈ advance s.conns place (some { conn with pc := pc }) := hconn'
    rcases mem_advance hpool with hold | hmoved
    · exact ht.conns conn' (hconns ▸ hold)
    · obtain rfl := Option.some.inj hmoved
      exact hpc

/-- What a party knows of its request. -/
def Conn.Fits (conn : Conn) : Prop :=
  match conn.pc with
  | .permitted command => ∃ req, conn.input = .ok req ∧ req.op = opExec ∧ req.command = command
  | .loading | .loaded _ => ∃ req, conn.input = .ok req ∧ req.op = opReloadPolicy
  | _ => True

/-- What may have been run for a connection: nothing before there is an answer, then what the
answer accounts for. -/
def Conn.Accounts (conn : Conn) (ran : List Request) : Prop :=
  match conn.pc with
  | .replying resp | .closed resp _ => resp.Accounts conn.input ran
  | _ => ran = []

/-- The commands that were run for a connection. -/
def Server.ranFor (s : Server) (place : Nat) : List Request :=
  (s.ran.filter fun r => r.conn = place).map Ran.command

/-- Each connection's answer agrees with what was started for it. -/
structure Truthful (s : Server) : Prop where
  fits : ∀ conn ∈ s.conns, conn.Fits
  places : ∀ r ∈ s.ran, r.conn < s.conns.length
  accounts : ∀ (place : Nat) conn, s.conns[place]? = some conn → conn.Accounts (s.ranFor place)

theorem accounts_reload {input : Except String WireRequest}
    (h : ∃ req, input = .ok req ∧ req.op = opReloadPolicy) {resp : Response}
    (hresp : ∀ cause, resp.err ≠ some (.execError cause)) : resp.Accounts input [] := by
  obtain ⟨req, rfl, hop⟩ := h
  have hother : req.op ≠ opExec := by
    rw [hop]
    decide
  unfold Response.Accounts
  split
  · rename_i heq _
    cases heq
    rw [if_neg hother]
  · rename_i herr
    exact absurd herr (hresp _)
  · rfl

/-- A party that moves runs nothing, or the command of its request, for the first time. -/
theorem ConnMove.accounts (h : ConnMove s place conn pc t) (hfits : conn.Fits)
    {ran : List Request} (hran : conn.Accounts ran) : (Conn.mk conn.input pc).Fits ∧
      ∃ new, t.ran = new.map (Ran.mk place) ++ s.ran ∧
        (Conn.mk conn.input pc).Accounts (new ++ ran) := by
  cases h with
  | answered resp hpc haccounts =>
    obtain rfl : ran = [] := by simpa [Conn.Accounts, hpc] using hran
    exact ⟨trivial, [], rfl, haccounts⟩
  | reload req hpc hinput hop =>
    obtain rfl : ran = [] := by simpa [Conn.Accounts, hpc] using hran
    exact ⟨⟨req, hinput, hop⟩, [], rfl, rfl⟩
  | permitted req hpc hinput hop _ =>
    obtain rfl : ran = [] := by simpa [Conn.Accounts, hpc] using hran
    exact ⟨⟨req, hinput, hop, rfl⟩, [], rfl, rfl⟩
  | ran command result hpc _ =>
    obtain rfl : ran = [] := by simpa [Conn.Accounts, hpc] using hran
    rw [Conn.Fits, hpc] at hfits
    obtain ⟨req, hinput, hop, rfl⟩ := hfits
    refine ⟨trivial, [req.command], rfl, ?_⟩
    cases result <;> simp [Conn.Accounts, Response.Accounts, ExecResult.response, hinput, hop]
  | notStarted command stdout stderr cause hpc =>
    obtain rfl : ran = [] := by simpa [Conn.Accounts, hpc] using hran
    rw [Conn.Fits, hpc] at hfits
    obtain ⟨req, hinput, hop, rfl⟩ := hfits
    refine ⟨trivial, [], rfl, ?_⟩
    simp [Conn.Accounts, Response.Accounts, ExecResult.response, hinput, hop]
  | failed cause hpc =>
    obtain rfl : ran = [] := by simpa [Conn.Accounts, hpc] using hran
    rw [Conn.Fits, hpc] at hfits
    exact ⟨trivial, [], rfl, accounts_reload hfits (by simp)⟩
  | loaded p hpc =>
    obtain rfl : ran = [] := by simpa [Conn.Accounts, hpc] using hran
    rw [Conn.Fits, hpc] at hfits
    exact ⟨hfits, [], rfl, rfl⟩
  | replaced p hpc =>
    obtain rfl : ran = [] := by simpa [Conn.Accounts, hpc] using hran
    rw [Conn.Fits, hpc] at hfits
    exact ⟨trivial, [], rfl, accounts_reload hfits (by simp)⟩
  | written resp written hpc =>
    refine ⟨trivial, [], rfl, ?_⟩
    simpa [Conn.Accounts, hpc] using hran

/-- A step of the server keeps each response in accord with what ran. -/
theorem step_truthful (h : Truthful s) (hstep : s.step l = some s') : Truthful s' := by
  rcases Server.step_cases hstep with
    ⟨input, -, rfl⟩ | ⟨place, o, conn, pc, t, -, hconn, hmove, rfl⟩
  · refine ⟨?_, fun r hr => ?_, fun place conn hconn => ?_⟩
    · exact List.forall_mem_append.mpr ⟨h.fits, List.forall_mem_singleton.mpr trivial⟩
    · have hlt := h.places r hr
      rw [List.length_append]
      omega
    · rw [List.getElem?_append] at hconn
      split at hconn
      · exact h.accounts place conn hconn
      · -- nothing was run yet for a connection just accepted
        obtain rfl := List.mem_singleton.mp (List.mem_of_getElem? hconn)
        have hnone : (s.ran.filter fun r => r.conn = place) = [] := by
          rw [List.filter_eq_nil_iff]
          intro r hr
          have hlt := h.places r hr
          simp only [decide_eq_true_eq]
          omega
        exact congrArg (List.map Ran.command) hnone
  · have hlength : place < s.conns.length := (List.getElem?_eq_some_iff.mp hconn).1
    obtain ⟨hfits, new, hran, haccounts⟩ :=
      hmove.accounts (h.fits conn (List.mem_of_getElem? hconn)) (h.accounts place conn hconn)
    refine ⟨fun conn' hconn' => ?_, fun r hr => ?_, fun other conn' hconn' => ?_⟩
    · rcases mem_advance (show conn' ∈ advance s.conns place (some ⟨conn.input, pc⟩) from hconn')
        with hold | hmoved
      · exact h.fits conn' hold
      · obtain rfl := Option.some.inj hmoved
        exact hfits
    · rw [hran] at hr
      simp only [advance, List.length_set]
      rcases List.mem_append.mp hr with hnew | hold
      · obtain ⟨command, -, rfl⟩ := List.mem_map.mp hnew
        exact hlength
      · exact h.places r hold
    · have hnew : t.ranFor other = (if other = place then new else []) ++ s.ranFor other := by
        rw [Server.ranFor, hran, List.filter_append, List.map_append]
        by_cases hplace : other = place
        · rw [List.filter_eq_self.mpr (by simp [hplace]), List.map_map, if_pos hplace]
          exact congrArg (· ++ _) (List.map_id new)
        · rw [List.filter_eq_nil_iff.mpr (by simp [Ne.symm hplace]), if_neg hplace]
          rfl
      change conn'.Accounts (t.ranFor other)
      rw [hnew]
      dsimp only [advance] at hconn'
      by_cases hplace : other = place
      · subst hplace
        rw [List.getElem?_set_self hlength] at hconn'
        obtain rfl := Option.some.inj hconn'
        rw [if_pos rfl]
        exact haccounts
      · rw [List.getElem?_set_ne (Ne.symm hplace)] at hconn'
        rw [if_neg hplace]
        exact h.accounts other conn' hconn'

/-- The party has the loader called, or its policy not yet in force. -/
def ConnPC.reloading : ConnPC → Bool
  | .loading | .loaded _ => true
  | _ => false

/-- No reload begins while another is under way. -/
def reloadsInTurn (s : Server) : ServerLabel → Bool
  | .accept _ => true
  | .turn place _ =>
    match s.conns[place]? with
    | some ⟨.ok req, .received⟩ =>
      req.op ≠ opReloadPolicy || s.conns.all fun other => !other.pc.reloading
    | _ => true

/-- One reload at a time, and the policy in force is the one loaded last. -/
structure Current (s : Server) : Prop where
  alone : AtMostOne (fun conn : Conn => conn.pc.reloading = true) s.conns
  loaded : ∀ conn ∈ s.conns, ∀ p, conn.pc = .loaded p → s.loads.head? = some p
  policy : (∀ conn ∈ s.conns, ∀ p, conn.pc ≠ .loaded p) → s.policy = s.loads.head?

/-- A move that neither loads a policy nor replaces the one in force. -/
theorem Current.keep (h : Current s) (hconn : s.conns[place]? = some conn)
    (hpolicy : t.policy = s.policy) (hloads : t.loads = s.loads)
    (hbefore : ∀ p, conn.pc ≠ .loaded p) (hafter : ∀ p, pc ≠ .loaded p)
    (halone : AtMostOne (fun conn : Conn => conn.pc.reloading = true)
      (advance s.conns place (some ⟨conn.input, pc⟩))) :
    Current { t with conns := advance s.conns place (some ⟨conn.input, pc⟩) } := by
  refine ⟨halone, fun conn' hconn' p hp => ?_, fun hnone => ?_⟩
  · rw [hloads]
    rcases mem_advance (show conn' ∈ advance s.conns place (some ⟨conn.input, pc⟩) from hconn')
      with hold | hmoved
    · exact h.loaded conn' hold p hp
    · obtain rfl := Option.some.inj hmoved
      exact absurd hp (hafter p)
  · rw [hpolicy, hloads]
    refine h.policy fun conn' hconn' p hp => ?_
    obtain ⟨other, hother⟩ := List.mem_iff_getElem?.mp hconn'
    by_cases hplace : other = place
    · subst hplace
      obtain rfl := Option.some.inj (hconn.symm.trans hother)
      exact hbefore p hp
    · rw [← List.getElem?_set_ne (a := Conn.mk conn.input pc) (Ne.symm hplace)] at hother
      exact hnone conn' (List.mem_of_getElem? hother) p hp

/-- With reloads in turn, the policy in force stays the last one loaded. -/
theorem step_current (h : Current s) (hturn : reloadsInTurn s l = true)
    (hstep : s.step l = some s') : Current s' := by
  rcases Server.step_cases hstep with
    ⟨input, -, rfl⟩ | ⟨place, o, conn, pc, t, hl, hconn, hmove, rfl⟩
  · refine ⟨h.alone.append_of_not (by simp [ConnPC.reloading]), ?_,
      fun hnone => h.policy fun conn hconn => hnone conn (List.mem_append_left _ hconn)⟩
    exact List.forall_mem_append.mpr ⟨h.loaded, by simp⟩
  · have halone (hnext : pc.reloading = true → conn.pc.reloading = true) :
        AtMostOne (fun conn : Conn => conn.pc.reloading = true)
          (advance s.conns place (some ⟨conn.input, pc⟩)) := by
      refine atMostOne_advance h.alone hconn fun moved hmoved => ?_
      obtain rfl := Option.some.inj hmoved
      exact hnext
    cases hmove with
    | answered resp hpc _ =>
      exact h.keep hconn rfl rfl (by simp [hpc]) (by simp) (halone (by simp [ConnPC.reloading]))
    | reload req hpc hinput hop =>
      refine h.keep hconn rfl rfl (by simp [hpc]) (by simp) fun i j t t' hi hj ht ht' => ?_
      -- the party that begins is the only one
      obtain ⟨input, pc⟩ := conn
      obtain rfl : pc = .received := hpc
      obtain rfl : input = .ok req := hinput
      simp only [reloadsInTurn, hl, hconn, hop, ne_eq, not_true_eq_false, decide_false,
        Bool.false_or, List.all_eq_true, Bool.not_eq_true'] at hturn
      have hplace : ∀ {k u}, (advance s.conns place (some ⟨.ok req, .loading⟩))[k]? = some u →
          u.pc.reloading = true → place = k := by
        intro k u hk hu
        by_contra hne
        rw [advance, List.getElem?_set_ne hne] at hk
        simp [hturn u (List.mem_of_getElem? hk)] at hu
      exact (hplace hi ht).symm.trans (hplace hj ht')
    | permitted req hpc _ _ _ =>
      exact h.keep hconn rfl rfl (by simp [hpc]) (by simp) (halone (by simp [ConnPC.reloading]))
    | ran command result hpc _ =>
      exact h.keep hconn rfl rfl (by simp [hpc]) (by simp) (halone (by simp [ConnPC.reloading]))
    | notStarted command stdout stderr cause hpc =>
      exact h.keep hconn rfl rfl (by simp [hpc]) (by simp) (halone (by simp [ConnPC.reloading]))
    | written resp written hpc =>
      exact h.keep hconn rfl rfl (by simp [hpc]) (by simp) (halone (by simp [ConnPC.reloading]))
    | failed cause hpc =>
      exact h.keep hconn rfl rfl (by simp [hpc]) (by simp [refused])
        (halone (by simp [ConnPC.reloading, refused]))
    | loaded p hpc =>
      refine ⟨halone (by simp [ConnPC.reloading, hpc]), fun conn' hconn' q hq => ?_,
        fun hnone => ?_⟩
      · rcases mem_advance (show conn' ∈ advance s.conns place (some ⟨conn.input, .loaded p⟩)
          from hconn') with hold | hmoved
        · -- no other party has loaded one
          obtain ⟨other, hother⟩ := List.mem_iff_getElem?.mp hold
          obtain rfl := h.alone place other conn conn' hconn hother
            (by simp [ConnPC.reloading, hpc]) (by simp [ConnPC.reloading, hq])
          obtain rfl := Option.some.inj (hconn.symm.trans hother)
          simp [hpc] at hq
        · obtain rfl := Option.some.inj hmoved
          exact congrArg some (ConnPC.loaded.inj hq)
      · have hself := List.getElem?_set_self (a := Conn.mk conn.input (.loaded p))
          (List.getElem?_eq_some_iff.mp hconn).1
        exact absurd rfl (hnone _ (List.mem_of_getElem? hself) p)
    | replaced p hpc =>
      have hlatest := h.loaded conn (List.mem_of_getElem? hconn) p hpc
      refine ⟨halone (by simp [ConnPC.reloading, accepted]), fun conn' hconn' q hq => ?_,
        fun _ => hlatest.symm⟩
      rcases mem_advance (show conn' ∈ advance s.conns place (some ⟨conn.input, accepted⟩)
        from hconn') with hold | hmoved
      · exact h.loaded conn' hold q hq
      · obtain rfl := Option.some.inj hmoved
        simp [accepted] at hq

end

namespace HelperWitness

/-- The policy after a bridge was configured. -/
def withBridge : Policy := { Policy.zero with vmnetInterface := "bridge100" }

/-- What the outside answers where nothing fails, with the policy the loader returns. -/
def serving (p : Policy) : ServerOutcome := ⟨.ok p, .exited "" "" 0, true⟩

def reloadRequest : ServerLabel := .accept (.ok ⟨1, opReloadPolicy, ⟨"", [], ""⟩⟩)

/-- A command is permitted, another policy is loaded, and the command runs before the loaded policy
is in force.  The answer about the command is lost. -/
def reloadWhilePermitted : List ServerLabel :=
  [.accept (.ok ⟨1, opExec, ⟨"pfctl", ["-e"], ""⟩⟩), .turn 0 (serving withBridge), reloadRequest,
    .turn 1 (serving withBridge), .turn 1 (serving withBridge), .turn 0 (serving withBridge),
    .turn 0 ⟨.ok withBridge, .exited "" "" 0, false⟩, .turn 1 (serving withBridge),
    .turn 1 (serving withBridge)]

/-- What the run leads to. -/
def served (s : Server) : Bool :=
  s.ranFor 0 = [⟨"pfctl", ["-e"], ""⟩] ∧
    s.loads.map Policy.vmnetInterface = ["bridge100", ""] ∧
    s.conns.all (fun conn => !conn.pc.reloading) ∧ s.conns.length = 2

theorem exists_served : ∃ s,
    Run Server.step (fun s l => reloadsInTurn s l = true) (.listening (some Policy.zero) true)
      reloadWhilePermitted s ∧ served s = true :=
  exists_run_of_check reloadsInTurn (fun _ _ h => h) (by decide)

/-- Two reloads overlap: the one that loaded first is the last to put its policy in force. -/
def overlapping : List ServerLabel :=
  [reloadRequest, reloadRequest, .turn 0 (serving Policy.zero), .turn 1 (serving Policy.zero),
    .turn 0 (serving Policy.zero), .turn 1 (serving withBridge), .turn 1 (serving withBridge),
    .turn 0 (serving withBridge)]

end HelperWitness

open HelperWitness

/-- Over every interleaving of connections and reloads, a command the helper has run is one that
some policy its loader had returned permits. -/
theorem helper_runs_permitted {p : Policy} {reloadable : Bool} {ls : List ServerLabel} {s : Server}
    (hrun : Run Server.step (fun _ _ => True) (.listening (some p) reloadable) ls s) :
    ∀ r ∈ s.ran, ∃ q ∈ s.loads, q.Permitted r.command := by
  have hguarded : Guarded s := by
    refine hrun.invariant ?_ fun h _ hstep => step_guarded h hstep
    exact ⟨⟨p, List.mem_singleton_self p, rfl⟩, List.forall_mem_nil _, List.forall_mem_nil _⟩
  intro r hr
  obtain ⟨q, hq, hvalid⟩ := hguarded.ran r hr
  exact ⟨q, hq, Policy.permitted_of_accepted hvalid⟩

theorem helper_runs_permitted_served : ∃ s, served s = true ∧
    ∀ r ∈ s.ran, ∃ q ∈ s.loads, q.Permitted r.command := by
  obtain ⟨s, hrun, hserved⟩ := exists_served
  exact ⟨s, hserved, helper_runs_permitted (hrun.mono fun _ _ _ => trivial)⟩

/-- A request runs once or not at all. -/
theorem Response.Accounts.once {resp : Response} {input : Except String WireRequest}
    {ran : List Request} (h : resp.Accounts input ran) :
    ran = [] ∨ ∃ req, input = .ok req ∧ req.op = opExec ∧ ran = [req.command] := by
  unfold Response.Accounts at h
  split at h
  · rename_i req _
    split at h
    · rename_i hop
      exact Or.inr ⟨req, rfl, hop, h⟩
    · exact Or.inl h
  · rename_i req _ _
    exact h.2.imp_right fun hran => ⟨req, rfl, h.1, hran⟩
  · exact Or.inl h

/-- Whatever the policy and however the connections interleave, also where answers are lost: the
helper has run nothing for a connection or its own command, once.  A client that is told how its
command ended can rely on its having been run, and one that is told of another error than a failure
to run it can rely on its not having been run. -/
theorem helper_answers_tell {policy : Option Policy} {reloadable : Bool} {ls : List ServerLabel}
    {s : Server} (hrun : Run Server.step (fun _ _ => True) (.listening policy reloadable) ls s)
    {place : Nat} {conn : Conn} (hconn : s.conns[place]? = some conn) :
    (s.ranFor place = [] ∨ ∃ req, conn.input = .ok req ∧ req.op = opExec ∧
        s.ranFor place = [req.command]) ∧
      ∀ resp, conn.pc = .closed resp true →
        (∀ req, conn.input = .ok req → req.op = opExec → resp.err = none →
          s.ranFor place = [req.command]) ∧
        (∀ e, resp.err = some e → (∀ cause, e ≠ .execError cause) → s.ranFor place = []) := by
  have htruthful : Truthful s := by
    refine hrun.invariant ?_ fun h _ hstep => step_truthful h hstep
    exact ⟨List.forall_mem_nil _, List.forall_mem_nil _, fun _ _ h => by cases h⟩
  have haccounts := htruthful.accounts place conn hconn
  unfold Conn.Accounts at haccounts
  constructor
  · split at haccounts
    · exact haccounts.once
    · exact haccounts.once
    · exact Or.inl haccounts
  · intro resp hpc
    have haccounts : resp.Accounts conn.input (s.ranFor place) := by
      simpa only [hpc] using haccounts
    constructor
    · intro req hinput hop herr
      simpa [Response.Accounts, hinput, herr, hop] using haccounts
    · intro e herr hother
      unfold Response.Accounts at haccounts
      split at haccounts
      · rename_i hnone
        cases hnone.symm.trans herr
      · rename_i hexec
        cases hexec.symm.trans herr
        exact absurd rfl (hother _)
      · exact haccounts

/-- The command of the first connection was run although its client was told nothing. -/
theorem helper_answers_tell_served : ∃ s conn, served s = true ∧ s.conns[0]? = some conn ∧
    ∃ req, conn.input = .ok req ∧ req.op = opExec ∧ s.ranFor 0 = [req.command] := by
  obtain ⟨s, hrun, hserved⟩ := exists_served
  have hlength : s.conns.length = 2 := (of_decide_eq_true hserved).2.2.2
  have hconn := List.getElem?_eq_getElem (show 0 < s.conns.length by omega)
  have hran : s.ranFor 0 ≠ [] := by
    rw [(of_decide_eq_true hserved).1]
    exact List.cons_ne_nil _ _
  have htells := helper_answers_tell (hrun.mono fun _ _ _ => trivial) hconn
  exact ⟨s, _, hserved, hconn, htells.1.resolve_left hran⟩

/-- When no reload begins while another is under way, the policy in force is the one loaded last
whenever no reload is under way: no older policy comes back. -/
theorem reloaded_policy_is_latest {policy : Option Policy} {reloadable : Bool}
    {ls : List ServerLabel} {s : Server}
    (hrun : Run Server.step (fun s l => reloadsInTurn s l = true) (.listening policy reloadable)
      ls s)
    (hdone : ∀ conn ∈ s.conns, conn.pc.reloading = false) : s.policy = s.loads.head? := by
  have hcurrent : Current s := by
    refine hrun.invariant ?_ step_current
    refine ⟨fun _ _ _ _ h => by simp [Server.listening] at h, List.forall_mem_nil _, fun _ => ?_⟩
    cases policy <;> rfl
  refine hcurrent.policy fun conn hconn p hp => ?_
  simpa [hp, ConnPC.reloading] using hdone conn hconn

theorem reloaded_policy_is_latest_served : ∃ s, served s = true ∧
    s.policy.map Policy.vmnetInterface = some "bridge100" := by
  obtain ⟨s, hrun, hserved⟩ := exists_served
  have hdone : s.conns.all (fun conn => !conn.pc.reloading) = true :=
    (of_decide_eq_true hserved).2.2.1
  simp only [List.all_eq_true, Bool.not_eq_true'] at hdone
  refine ⟨s, hserved, ?_⟩
  rw [reloaded_policy_is_latest hrun hdone, ← List.head?_map, (of_decide_eq_true hserved).2.1]
  rfl

/-- Where reloads overlap the older policy may come back: the last one loaded is not in force, and
no reload is under way. -/
theorem overlapping_reloads_restore_older : ∃ s,
    Run Server.step (fun _ _ => True) (.listening (some Policy.zero) true) overlapping s ∧
      (∀ conn ∈ s.conns, conn.pc.reloading = false) ∧ s.policy ≠ s.loads.head? := by
  obtain ⟨s, hrun, hcheck⟩ : ∃ s, Run Server.step (fun _ _ => True)
      (.listening (some Policy.zero) true) overlapping s ∧
        decide (s.conns.all (fun conn => !conn.pc.reloading) ∧
          s.policy.map Policy.vmnetInterface ≠ s.loads.head?.map Policy.vmnetInterface) = true :=
    exists_run_of_check (fun _ _ => true) (fun _ _ _ => trivial) (by decide)
  obtain ⟨hdone, hdiffer⟩ := of_decide_eq_true hcheck
  simp only [List.all_eq_true, Bool.not_eq_true'] at hdone
  exact ⟨s, hrun, hdone, fun hsame => hdiffer (by rw [hsame])⟩

end Privhelper

end MacVz
