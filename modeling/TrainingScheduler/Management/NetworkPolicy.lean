import TrainingScheduler.Untyped
import TrainingScheduler.Programs

/-!
# The network policy

`verify_policy` of `reconciliation.py`, which accepts a policy of the tailnet if every rule that the
service does not require itself has ordinary selectors only.  A selector stands for a set of nodes;
the nodes of the service carry one of the two interactive tags.
-/

namespace TrainingScheduler.Management.NetworkPolicy

open Untyped

/-- `ControlUnavailable`, or an operation on a value that does not have it. -/
inductive PolicyError where
  | unavailable (detail : String)
  | fault (fault : Fault)
  deriving DecidableEq, Repr

def attempt {α : Type} (program : Except Fault α) : Except PolicyError α :=
  program.mapError .fault

/-- The two lists of rules of a policy. -/
inductive Kind where
  | grants
  | acls
  deriving DecidableEq, Repr

def Kind.name : Kind → String
  | .grants => "grants"
  | .acls => "acls"

/-- The tags of the service. -/
def roles : List String := ["tag:interactive-gateway", "tag:interactive-endpoint"]

/-- `username`. -/
def username : Value → Bool
  | .str text => has text '@' && !([':', '*', ' ', '\n'].any (has text))
  | _ => false

variable (policy required : Value)

/-- `ordinary` for a string whose port part has been taken off. -/
def ordinaryText (text : String) : Except Fault Bool :=
  if text = "autogroup:member" then .ok true
  else if starts text "tag:" then .ok (!roles.contains text && !has text '*')
  else if starts text "group:" then do
    let groups ← policy.get "groups" .emptyDict
    let members ← groups.get text .emptyList
    if members.truthy then
      let listed ← members.items
      .ok (listed.all username)
    else .ok false
  else .ok (username (.str text))

/-- `ordinary`. -/
def ordinary (aclDestination : Bool) : Value → Except Fault Bool
  | .str text => ordinaryText policy (if aclDestination then beforeLast text ':' else text)
  | _ => .ok false

def checkOwners : Except PolicyError Unit :=
  roles.forM fun tag => do
    let owners ← attempt (policy.get "tagOwners" .emptyDict)
    let owner ← attempt (owners.get tag .null)
    if owner.truthy = false then .error (.unavailable "required tag ownership absent") else .ok ()

def checkRequired : Except PolicyError Unit := do
  let grants ← attempt (required.get "grants" .emptyList)
  let rules ← attempt grants.items
  rules.forM fun rule => do
    let present ← attempt (policy.get "grants" .emptyList)
    let listed ← attempt (present.contains rule)
    if listed = false then .error (.unavailable "required interactive network grant absent")
    else .ok ()

def tooBroad : PolicyError := .unavailable "interactive network policy is too broad or ambiguous"

/-- The check of a rule that is not required. -/
def checkRule (kind : Kind) (rule : Value) : Except PolicyError Unit := do
  let src ← attempt (rule.get "src" .null)
  let dst ← attempt (rule.get "dst" .null)
  if src.truthy = false ∨ dst.truthy = false then .error tooBroad
  else do
    let sources ← attempt src.items
    let first ← attempt (sources.allM (ordinary policy false))
    if first = false then .error tooBroad
    else do
      let destinations ← attempt dst.items
      let second ← attempt (destinations.allM (ordinary policy (kind == .acls)))
      if second = false then .error tooBroad else .ok ()

def checkRules (kind : Kind) : Except PolicyError Unit := do
  let listed ← attempt (policy.get kind.name .emptyList)
  let rules ← attempt listed.items
  rules.forM fun rule => do
    let known ← attempt (required.get kind.name .emptyList)
    let matched ← attempt (known.contains rule)
    if matched then .ok () else checkRule policy kind rule

/-- `verify_policy`, with the two documents read. -/
def verifyPolicy : Except PolicyError Unit := do
  checkOwners policy
  checkRequired policy required
  checkRules policy required .grants
  checkRules policy required .acls

/-- A node of the tailnet; one without tags belongs to a user. -/
structure Peer where
  tags : List String
  deriving DecidableEq, Repr

/-- What a selector denotes: the members of the tailnet, the nodes with a tag, a declared group, the
nodes of a user, or what cannot be told from the text, such as a wildcard, an address or an
alias. -/
inductive Selector where
  | members
  | tag (name : String)
  | group (name : String)
  | user (name : String)
  | unknown
  deriving DecidableEq, Repr

def Selector.parse (text : String) : Selector :=
  if text = "autogroup:member" then .members
  else if starts text "tag:" ∧ has text '*' = false then .tag text
  else if starts text "group:" then .group text
  else if username (.str text) then .user text
  else .unknown

/-- The members that a policy declares for a group. -/
def declared (group : String) : Except Fault (List Value) := do
  let groups ← policy.get "groups" .emptyDict
  let members ← groups.get group .null
  members.items

section

/- Which nodes belong to the user of a name. -/
variable (owns : String → Peer → Prop)

/-- A member of a group selects the untagged nodes of a user, or any node if it names no user. -/
def MemberSelects (member : Value) (peer : Peer) : Prop :=
  username member = true → peer.tags = [] ∧ ∃ name, member = .str name ∧ owns name peer

/-- The selector selects the node.  A group that is not declared and a selector that cannot be told
may select any node. -/
def Selector.Selects (policy : Value) (peer : Peer) : Selector → Prop
  | .members => peer.tags = []
  | .tag name => name ∈ peer.tags
  | .group name => ∀ listed, declared policy name = .ok listed →
      ∃ member ∈ listed, MemberSelects owns member peer
  | .user name => peer.tags = [] ∧ owns name peer
  | .unknown => True

/-- The sides of a rule. -/
inductive Side where
  | source
  | destination
  deriving DecidableEq, Repr

def Side.field : Side → String
  | .source => "src"
  | .destination => "dst"

def entries (rule : Value) (side : Side) : Except Fault (List Value) := do
  let value ← rule.get side.field .null
  value.items

/-- The selector of an entry; the destination of an ACL rule has a port part behind it. -/
def selector (kind : Kind) (side : Side) : Value → Selector
  | .str text =>
    .parse (if kind = .acls ∧ side = .destination then beforeLast text ':' else text)
  | _ => .unknown

def RuleSelects (policy : Value) (kind : Kind) (rule : Value) (side : Side) (peer : Peer) : Prop :=
  ∃ listed, entries rule side = .ok listed ∧
    ∃ entry ∈ listed, (selector kind side entry).Selects owns policy peer

end

theorem attempt_eq_ok {α : Type} {program : Except Fault α} {value : α}
    (done : attempt program = .ok value) : program = .ok value := by
  cases program with
  | error fault => cases done
  | ok result => exact congrArg Except.ok (Except.ok.inj done)

/-- An entry is looked at without its port part on the destination side of an ACL rule. -/
def Side.aclDestination (kind : Kind) : Side → Bool
  | .source => false
  | .destination => kind == .acls

private theorem checkRule_eq_ok {policy rule : Value} {kind : Kind}
    (passed : checkRule policy kind rule = .ok ()) (side : Side) :
    ∃ listed, entries rule side = .ok listed ∧
      ∀ entry ∈ listed, ordinary policy (side.aclDestination kind) entry = .ok true := by
  obtain ⟨src, src_found, rest⟩ := bind_eq_ok passed
  obtain ⟨dst, dst_found, rest⟩ := bind_eq_ok rest
  obtain ⟨-, rest⟩ := guard_eq_ok rest
  obtain ⟨sources, sources_listed, rest⟩ := bind_eq_ok rest
  obtain ⟨first, sources_tested, rest⟩ := bind_eq_ok rest
  obtain ⟨first_passed, rest⟩ := guard_eq_ok rest
  obtain ⟨destinations, destinations_listed, rest⟩ := bind_eq_ok rest
  obtain ⟨second, destinations_tested, rest⟩ := bind_eq_ok rest
  obtain ⟨second_passed, -⟩ := guard_eq_ok rest
  rw [Bool.not_eq_false] at first_passed second_passed
  subst first_passed second_passed
  cases side with
  | source =>
    refine ⟨sources, ?_, fun entry member => ?_⟩
    · simp only [entries, Side.field, attempt_eq_ok src_found, attempt_eq_ok sources_listed, bind,
        Except.bind]
    · exact allM_eq_true (attempt_eq_ok sources_tested) entry member
  | destination =>
    refine ⟨destinations, ?_, fun entry member => ?_⟩
    · simp only [entries, Side.field, attempt_eq_ok dst_found, attempt_eq_ok destinations_listed,
        bind, Except.bind]
    · exact allM_eq_true (attempt_eq_ok destinations_tested) entry member

/-- The rules of a policy, and whether one of them is required. -/
def rules (policy : Value) (kind : Kind) : Except Fault (List Value) := do
  let listed ← policy.get kind.name .emptyList
  listed.items

def known (required : Value) (kind : Kind) (rule : Value) : Except Fault Bool := do
  let listed ← required.get kind.name .emptyList
  listed.contains rule

variable {listed : List Value}

private theorem checkRule_of_accepted {policy required rule : Value} {kind : Kind}
    (accepted : verifyPolicy policy required = .ok ()) (found : rules policy kind = .ok listed)
    (member : rule ∈ listed) (extra : known required kind rule = .ok false) :
    checkRule policy kind rule = .ok () := by
  obtain ⟨⟨⟩, -, rest⟩ := bind_eq_ok accepted
  obtain ⟨⟨⟩, -, rest⟩ := bind_eq_ok rest
  obtain ⟨⟨⟩, grants, acls⟩ := bind_eq_ok rest
  have checked : checkRules policy required kind = .ok () := by
    cases kind with
    | grants => exact grants
    | acls => exact acls
  obtain ⟨value, value_found, loop⟩ := bind_eq_ok checked
  obtain ⟨items, items_found, loop⟩ := bind_eq_ok loop
  have same : listed = items := by
    simp only [rules, attempt_eq_ok value_found, attempt_eq_ok items_found, bind, Except.bind,
      Except.ok.injEq] at found
    exact found.symm
  subst same
  obtain ⟨required_rules, required_found, step⟩ := bind_eq_ok (forM_eq_ok loop rule member)
  obtain ⟨matched, contained, step⟩ := bind_eq_ok step
  simp only [known, attempt_eq_ok required_found, attempt_eq_ok contained, bind, Except.bind,
    Except.ok.injEq] at extra
  subst extra
  exact step

section

variable {owns : String → Peer → Prop} {policy : Value} {peer : Peer}

/-- A group whose members are all users has no tagged nodes. -/
theorem untagged_of_group {group : String} {groups members : Value}
    (groups_found : policy.get "groups" .emptyDict = .ok groups)
    (members_found : groups.get group .emptyList = .ok members)
    (some_member : members.truthy = true) (items : members.items = .ok listed)
    (users : listed.all username = true)
    (selects : (Selector.group group).Selects owns policy peer) :
    peer.tags = [] := by
  have declares : declared policy group = .ok listed := by
    cases groups with
    | dict fields =>
      simp only [Value.get, Except.ok.injEq] at members_found
      simp only [declared, groups_found, bind, Except.bind]
      simp only [Value.get]
      cases field : fields.find group with
      | none =>
        rw [field, Option.getD_none] at members_found
        rw [← members_found] at some_member
        cases some_member
      | some value =>
        rw [field, Option.getD_some] at members_found
        rw [Option.getD_some, members_found, items]
    | null | num _ | str _ | list _ => cases members_found
  obtain ⟨member, member_listed, chosen⟩ := selects listed declares
  exact (chosen (List.all_eq_true.mp users member member_listed)).1

/-- An ordinary selector selects a tagged node by another tag than those of the service, or not at
all. -/
theorem tag_of_ordinary {text : String} (ordinary : ordinaryText policy text = .ok true)
    (tagged : peer.tags ≠ []) (selects : (Selector.parse text).Selects owns policy peer) :
    Selector.parse text = .tag text ∧ text ∉ roles ∧ text ∈ peer.tags := by
  unfold ordinaryText at ordinary
  unfold Selector.parse at selects ⊢
  split_ifs at ordinary with member tag group
  · rw [if_pos member] at selects
    exact absurd selects tagged
  · simp only [Except.ok.injEq, Bool.and_eq_true, Bool.not_eq_true', List.contains_eq_mem,
      decide_eq_false_iff_not] at ordinary
    rw [if_neg member, if_pos ⟨tag, ordinary.2⟩] at selects ⊢
    exact ⟨rfl, ordinary.1, selects⟩
  · have other : ¬ (starts text "tag:" = true ∧ has text '*' = false) := fun both => tag both.1
    rw [if_neg member, if_neg other, if_pos group] at selects
    obtain ⟨groups, groups_found, rest⟩ := bind_eq_ok ordinary
    obtain ⟨members, members_found, rest⟩ := bind_eq_ok rest
    split_ifs at rest with some_member
    · obtain ⟨listed, items, users⟩ := bind_eq_ok rest
      exact absurd (untagged_of_group groups_found members_found some_member items
        (Except.ok.inj users) selects) tagged
    · cases rest
  · have other : ¬ (starts text "tag:" = true ∧ has text '*' = false) := fun both => tag both.1
    have user : username (.str text) = true := Except.ok.inj ordinary
    rw [if_neg member, if_neg other, if_neg group, if_pos user] at selects
    exact absurd selects.1 tagged

end

/-- A rule of an accepted policy that is not required selects a node of the service, on either side,
exactly if the node carries a further tag that the rule names. -/
theorem extra_rule_selects_iff (owns : String → Peer → Prop) {policy required rule : Value}
    {kind : Kind} {listed : List Value} (accepted : verifyPolicy policy required = .ok ())
    (found : rules policy kind = .ok listed) (member : rule ∈ listed)
    (extra : known required kind rule = .ok false) (side : Side) {peer : Peer}
    (controlled : ∃ role ∈ roles, role ∈ peer.tags) :
    RuleSelects owns policy kind rule side peer ↔
      ∃ named, entries rule side = .ok named ∧ ∃ entry ∈ named, ∃ name,
        selector kind side entry = .tag name ∧ name ∉ roles ∧ name ∈ peer.tags := by
  obtain ⟨role, -, carried⟩ := controlled
  have tagged : peer.tags ≠ [] := List.ne_nil_of_mem carried
  obtain ⟨named, named_eq, ordinary_entries⟩ :=
    checkRule_eq_ok (checkRule_of_accepted accepted found member extra) side
  constructor
  · rintro ⟨entries, entries_eq, entry, entry_listed, selects⟩
    cases named_eq.symm.trans entries_eq
    refine ⟨named, named_eq, entry, entry_listed, ?_⟩
    have passed := ordinary_entries entry entry_listed
    cases entry with
    | str text =>
      have choice : (side.aclDestination kind = true) = (kind = .acls ∧ side = .destination) := by
        cases side <;> simp [Side.aclDestination]
      simp only [ordinary, choice] at passed
      obtain ⟨parsed, other, listed⟩ := tag_of_ordinary passed tagged selects
      exact ⟨_, parsed, other, listed⟩
    | null | num _ | list _ | dict _ => cases passed
  · rintro ⟨entries, entries_eq, entry, entry_listed, name, is_tag, -, listed⟩
    refine ⟨entries, entries_eq, entry, entry_listed, ?_⟩
    rw [is_tag]
    exact listed

/-- A rule with one selector on each side. -/
def oneToOne (source destination : String) : Value :=
  .dict (.ofList [("dst", .list (.ofList [.str destination])), ("ip", .list (.ofList [.str "*"])),
    ("src", .list (.ofList [.str source]))])

/-- The rule that the service requires. -/
def gatewayRule : Value :=
  .dict (.ofList [("dst", .list (.ofList [.str "tag:interactive-endpoint"])),
    ("ip", .list (.ofList [.str "tcp:9000"])),
    ("src", .list (.ofList [.str "tag:interactive-gateway"]))])

def requiredPolicy : Value := .dict (.ofList [("grants", .list (.ofList [gatewayRule]))])

/-- A policy with the required rule and one more. -/
def policyWith (rule : Value) : Value :=
  .dict (.ofList [("grants", .list (.ofList [gatewayRule, rule])),
    ("tagOwners", .dict (.ofList [("tag:interactive-endpoint", .list (.ofList [.str "admin@"])),
      ("tag:interactive-gateway", .list (.ofList [.str "admin@"]))]))])

/-- The members of the tailnet reach each other, and no node of the service. -/
theorem members_rule_spares_endpoint :
    let rule := oneToOne "autogroup:member" "autogroup:member"
    verifyPolicy (policyWith rule) requiredPolicy = .ok () ∧
      ∀ side, ¬ RuleSelects (fun _ _ => True) (policyWith rule) .grants rule side
        ⟨["tag:interactive-endpoint"]⟩ := by
  intro rule
  have accepted : verifyPolicy (policyWith rule) requiredPolicy = .ok () := by decide +kernel
  refine ⟨accepted, fun side selects => ?_⟩
  obtain ⟨named, -, entry, -, name, -, other, carried⟩ :=
    (extra_rule_selects_iff (fun _ _ => True) accepted
      (rfl : rules (policyWith rule) .grants = .ok [gatewayRule, rule])
      (List.mem_pair.mpr (.inr rfl)) (by decide +kernel) side
      ⟨"tag:interactive-endpoint", by simp [roles], by simp⟩).mp selects
  rw [List.mem_singleton] at carried
  exact other (by simp [carried, roles])

/-- An endpoint that carries a further tag is selected by a rule for that tag. -/
theorem further_tag_selects_endpoint :
    let rule := oneToOne "tag:web" "tag:web"
    verifyPolicy (policyWith rule) requiredPolicy = .ok () ∧
      rules (policyWith rule) .grants = .ok [gatewayRule, rule] ∧
      known requiredPolicy .grants rule = .ok false ∧
      ∀ side, RuleSelects (fun _ _ => False) (policyWith rule) .grants rule side
        ⟨["tag:interactive-endpoint", "tag:web"]⟩ := by
  intro rule
  refine ⟨by decide +kernel, rfl, by decide +kernel, fun side => ?_⟩
  have parsed : Selector.parse "tag:web" = .tag "tag:web" := by decide +kernel
  refine ⟨[.str "tag:web"], by cases side <;> rfl, .str "tag:web", by simp, ?_⟩
  rw [selector, if_neg (by simp), parsed]
  exact List.mem_pair.mpr (.inr rfl)

end TrainingScheduler.Management.NetworkPolicy
