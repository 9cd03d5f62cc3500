import PolicyRouting.Proofs.Policy.Numbering
import PolicyRouting.Proofs.Policy.Operations
import PolicyRouting.Proofs.Policy.Requests
import PolicyRouting.Proofs.Text.Items
import PolicyRouting.Proofs.Text.Names
import PolicyRouting.Proofs.Text.Numerals

/-!
# Which requests are admitted

A request passes ten checks, one after the other.  Each check is said here of
the request alone, without the function that makes it.  A computation is
reviewed by a list of checks if it succeeds where all of them pass and fails
with the fault of the first one that does not; reviews of two steps make one of
both.  So a request is reviewed by the ten checks in their order.
-/

namespace PolicyRouting

/-- What the text says, or the value that stands for no text. -/
def Says {α : Type} (Reads : String → α → Prop) (absent : α) : Option String → α → Prop
  | none, value => value = absent
  | some s, value => Reads s value

theorem Says.unique {α : Type} {Reads : String → α → Prop} {absent a b : α} {text : Option String}
    (unique : ∀ s, Reads s a → Reads s b → a = b) (h : Says Reads absent text a)
    (h' : Says Reads absent text b) : a = b := by
  cases text with
  | none => exact Eq.trans h (Eq.symm h')
  | some s => exact unique s h h'

namespace Request

section Asks

variable (request : Request)

def AsksApplication : Application → Prop :=
  Says (fun s app => app.IsCalled s) .web request.application

def AsksPriority : UInt32 → Prop :=
  Says (fun s n => Text.IsNumeral (Text.trim s.toList) n.toNat) 50 request.priority

def AsksAction : RouteClass → Prop :=
  Says (fun s class_ => class_.IsCalled s) .intra request.action

def AsksPath : List ConnectPoint → Prop := Says (Lists ConnectPoint.ofText) [] request.partialPath

def AsksSources : List HostId → Prop := Says (Lists HostId.ofText) [] request.srcHosts

def AsksTargets : List HostId → Prop := Says (Lists HostId.ofText) [] request.dstHosts

def source : String := Text.trimmed request.region

def destination : String :=
  match request.dstRegion with
  | none => request.source
  | some s => if Text.trimmed s = "" then request.source else Text.trimmed s

end Asks

variable {request : Request}

theorem AsksApplication.unique {app other : Application} (h : request.AsksApplication app)
    (h' : request.AsksApplication other) : app = other :=
  Says.unique (fun _ called called' => Except.ok.inj
    ((Application.ofText_eq_ok_iff.2 called).symm.trans (Application.ofText_eq_ok_iff.2 called'))) h h'

theorem AsksPriority.unique {n other : UInt32} (h : request.AsksPriority n)
    (h' : request.AsksPriority other) : n = other :=
  Says.unique (fun _ numeral numeral' => Option.some.inj
    ((Text.uint32?_eq_some_iff.2 numeral).symm.trans (Text.uint32?_eq_some_iff.2 numeral'))) h h'

theorem AsksAction.unique {class_ other : RouteClass} (h : request.AsksAction class_)
    (h' : request.AsksAction other) : class_ = other :=
  Says.unique (fun _ called called' => Except.ok.inj
    ((RouteClass.ofActionText_eq_ok_iff.2 called).symm.trans
      (RouteClass.ofActionText_eq_ok_iff.2 called'))) h h'

theorem regions_eq (request : Request) : request.regions = (request.source, request.destination) := by
  unfold regions destination source
  cases request.dstRegion with
  | none => rfl
  | some s =>
      simp only [Option.map_some]
      generalize Text.trimmed s = region
      by_cases blank : region = ""
      · rw [if_pos blank, blank]
        rfl
      · rw [if_neg blank]
        split
        · contradiction
        · simp_all
        · simp_all

theorem source_of_destination (h : request.destination = "") : request.source = "" := by
  unfold destination at h
  split at h
  · exact h
  · split at h
    · exact h
    · contradiction

/-! ## The checks -/

inductive Check where
  | application | prioritySyntax | action | partialPath | srcHosts | dstHosts
  | regions | priorityRange | regionNamed | profileNamed
  deriving DecidableEq

def Check.order : List Check :=
  [.application, .prioritySyntax, .action, .partialPath, .srcHosts, .dstHosts,
    .regions, .priorityRange, .regionNamed, .profileNamed]

def Passes (request : Request) : Check → Prop
  | .application => ∃ app, request.AsksApplication app
  | .prioritySyntax => ∃ n, request.AsksPriority n
  | .action => ∃ class_, request.AsksAction class_
  | .partialPath => ∀ s, request.partialPath = some s →
      ∀ item ∈ Text.items s, ∃ p, ConnectPoint.ofText item = .ok p
  | .srcHosts => ∀ s, request.srcHosts = some s →
      ∀ item ∈ Text.items s, ∃ id, HostId.ofText item = .ok id
  | .dstHosts => ∀ s, request.dstHosts = some s →
      ∀ item ∈ Text.items s, ∃ id, HostId.ofText item = .ok id
  | .regions => (request.AsksAction .intra → request.source = request.destination) ∧
      (request.AsksAction .inter → request.source ≠ request.destination)
  | .priorityRange => ∀ n, request.AsksPriority n → 1 ≤ n.toNat ∧ n.toNat ≤ 65535
  | .regionNamed => request.source ≠ ""
  | .profileNamed => Text.trimmed request.profileName ≠ ""

/-- A check that the request does not pass, and the fault that it is. -/
inductive Refuses (request : Request) : Check → Fault → Prop where
  | application {s : String} (given : request.application = some s)
      (unknown : ∀ app : Application, ¬ app.IsCalled s) :
      Refuses request .application (.unknownApplication s)
  | prioritySyntax {s : String} (given : request.priority = some s)
      (unread : ∀ n : UInt32, ¬ Text.IsNumeral (Text.trim s.toList) n.toNat) :
      Refuses request .prioritySyntax (.priorityNotNumeric s)
  | action {s : String} (given : request.action = some s)
      (unknown : ∀ class_ : RouteClass, ¬ class_.IsCalled s) :
      Refuses request .action (.unknownAction s)
  | partialPath {s : String} {fault : Fault} (given : request.partialPath = some s)
      (unread : FirstUnread ConnectPoint.ofText (Text.items s) fault) :
      Refuses request .partialPath fault
  | srcHosts {s : String} {fault : Fault} (given : request.srcHosts = some s)
      (unread : FirstUnread HostId.ofText (Text.items s) fault) : Refuses request .srcHosts fault
  | dstHosts {s : String} {fault : Fault} (given : request.dstHosts = some s)
      (unread : FirstUnread HostId.ofText (Text.items s) fault) : Refuses request .dstHosts fault
  | spans (intra : request.AsksAction .intra) (differ : request.source ≠ request.destination) :
      Refuses request .regions (.intraSpansRegions request.source request.destination)
  | within (inter : request.AsksAction .inter) (same : request.source = request.destination) :
      Refuses request .regions .interWithinRegion
  | priorityRange {n : UInt32} (asks : request.AsksPriority n)
      (outside : ¬ (1 ≤ n.toNat ∧ n.toNat ≤ 65535)) :
      Refuses request .priorityRange (.priorityOutOfRange n)
  | regionNamed (unnamed : request.source = "") : Refuses request .regionNamed .regionMissing
  | profileNamed (unnamed : Text.trimmed request.profileName = "") :
      Refuses request .profileNamed .unnamedProfile

variable {check : Check} {fault other : Fault}

theorem not_passes_of_refuses (h : request.Refuses check fault) : ¬ request.Passes check := by
  intro passes
  cases h with
  | application given unknown =>
      obtain ⟨app, asks⟩ := passes
      rw [AsksApplication, given] at asks
      exact unknown app asks
  | prioritySyntax given unread =>
      obtain ⟨n, asks⟩ := passes
      rw [AsksPriority, given] at asks
      exact unread n asks
  | action given unknown =>
      obtain ⟨class_, asks⟩ := passes
      rw [AsksAction, given] at asks
      exact unknown class_ asks
  | partialPath given unread | srcHosts given unread | dstHosts given unread =>
      exact unread.not_all (passes _ given)
  | spans intra differ => exact differ (passes.1 intra)
  | within inter same => exact passes.2 inter same
  | priorityRange asks outside => exact outside (passes _ asks)
  | regionNamed unnamed => exact passes unnamed
  | profileNamed unnamed => exact passes unnamed

theorem Refuses.unique (h : request.Refuses check fault) (h' : request.Refuses check other) :
    fault = other := by
  cases h with
  | application given =>
      cases h' with
      | application given' => rw [Option.some.inj (given.symm.trans given')]
  | prioritySyntax given =>
      cases h' with
      | prioritySyntax given' => rw [Option.some.inj (given.symm.trans given')]
  | action given =>
      cases h' with
      | action given' => rw [Option.some.inj (given.symm.trans given')]
  | partialPath given unread =>
      cases h' with
      | partialPath given' unread' =>
          obtain rfl := Option.some.inj (given.symm.trans given')
          exact unread.unique unread'
  | srcHosts given unread =>
      cases h' with
      | srcHosts given' unread' =>
          obtain rfl := Option.some.inj (given.symm.trans given')
          exact unread.unique unread'
  | dstHosts given unread =>
      cases h' with
      | dstHosts given' unread' =>
          obtain rfl := Option.some.inj (given.symm.trans given')
          exact unread.unique unread'
  | spans intra _ =>
      cases h' with
      | spans => rfl
      | within inter => exact absurd (intra.unique inter) (by decide)
  | within inter _ =>
      cases h' with
      | spans intra => exact absurd (intra.unique inter) (by decide)
      | within => rfl
  | priorityRange asks _ =>
      cases h' with
      | priorityRange asks' => rw [asks.unique asks']
  | regionNamed => cases h'; rfl
  | profileNamed => cases h'; rfl

/-- All checks before this one pass, and this one does not. -/
def FirstViolated (request : Request) (check : Check) : Prop :=
  ∃ before after, Check.order = before ++ check :: after ∧
    (∀ earlier ∈ before, request.Passes earlier) ∧ ¬ request.Passes check

theorem FirstViolated.unique {check' : Check} (h : request.FirstViolated check)
    (h' : request.FirstViolated check') : check = check' := by
  classical
  -- each is what a search along the order finds first
  have found : ∀ check, request.FirstViolated check →
      Check.order.find? (fun check => ¬ request.Passes check) = some check := by
    rintro check ⟨before, after, split, good, bad⟩
    refine List.find?_eq_some_iff_append.2 ⟨decide_eq_true bad, before, after, split, ?_⟩
    exact fun earlier h => by simpa using good earlier h
  exact Option.some.inj ((found check h).symm.trans (found check' h'))

/-! ## Reviews -/

section Review

variable {α β : Type} {checks more : List Check} {P : α → Prop} {Q : β → Prop}
  {x : Except Fault α} {next : α → Except Fault β}

def Reviewed (request : Request) (checks : List Check) (P : α → Prop) : Except Fault α → Prop
  | .ok a => (∀ check ∈ checks, request.Passes check) ∧ P a
  | .error fault => ∃ before check after, checks = before ++ check :: after ∧
      (∀ earlier ∈ before, request.Passes earlier) ∧ request.Refuses check fault

theorem Reviewed.bind (first : Reviewed request checks P x)
    (others : ∀ a, P a → Reviewed request more Q (next a)) :
    Reviewed request (checks ++ more) Q (x >>= next) := by
  -- the first fault is in the checks of `x`, or they all pass and it is one of the others
  cases x with
  | error fault =>
      obtain ⟨before, check, after, rfl, good, bad⟩ := first
      exact ⟨before, check, after ++ more, by simp, good, bad⟩
  | ok a =>
      obtain ⟨good, ha⟩ := first
      change Reviewed request (checks ++ more) Q (next a)
      have rest := others a ha
      cases hnext : next a with
      | ok b =>
          rw [hnext] at rest
          exact ⟨List.forall_mem_append.2 ⟨good, rest.1⟩, rest.2⟩
      | error fault =>
          rw [hnext] at rest
          obtain ⟨before, check, after, rfl, good', bad⟩ := rest
          exact ⟨checks ++ before, check, after, by simp, List.forall_mem_append.2 ⟨good, good'⟩, bad⟩

theorem Reviewed.step {check : Check} (first : Reviewed request [check] P x)
    (others : ∀ a, P a → Reviewed request more Q (next a)) :
    Reviewed request (check :: more) Q (x >>= next) :=
  first.bind others

theorem reviewed_done {b : β} (h : Q b) : Reviewed request [] Q (.ok b) :=
  ⟨fun _ hcheck => absurd hcheck List.not_mem_nil, h⟩

theorem reviewed_pass {a : α} {check : Check} (passes : request.Passes check) (h : P a) :
    Reviewed request [check] P (.ok a) := by
  refine ⟨fun other hother => ?_, h⟩
  obtain rfl := List.mem_singleton.1 hother
  exact passes

theorem reviewed_refuse {fault : Fault} {check : Check} (refuses : request.Refuses check fault) :
    Reviewed request (check :: more) P (.error fault : Except Fault α) :=
  ⟨[], check, more, rfl, fun _ hcheck => absurd hcheck List.not_mem_nil, refuses⟩

theorem Reviewed.after {check : Check} (passes : request.Passes check)
    (others : Reviewed request more P x) : Reviewed request (check :: more) P x :=
  (reviewed_pass passes trivial : Reviewed request [check] (fun _ => True) (.ok ())).step
    fun _ _ => others

theorem reviewed_given {read : String → Except Fault α} {Reads : String → α → Prop} {absent : α}
    {text : Option String} {check : Check}
    (accepts : ∀ s a, read s = .ok a → Reads s a)
    (passes : ∀ a, Says Reads absent text a → request.Passes check)
    (refuses : ∀ s fault, text = some s → read s = .error fault → request.Refuses check fault) :
    Reviewed request [check] (Says Reads absent text) (given read absent text) := by
  cases text with
  | none => exact reviewed_pass (passes absent rfl) rfl
  | some s =>
      change Reviewed request [check] (Reads s) (read s)
      cases hread : read s with
      | ok a => exact reviewed_pass (passes a (accepts s a hread)) (accepts s a hread)
      | error fault => exact reviewed_refuse (refuses s fault rfl hread)

end Review

theorem reviewed_application (request : Request) :
    Reviewed request [.application] request.AsksApplication
      (given Application.ofText .web request.application) := by
  refine reviewed_given (fun s app h => Application.ofText_eq_ok_iff.1 h)
    (fun app asks => ⟨app, asks⟩) fun s fault hgiven h => ?_
  obtain ⟨unknown, rfl⟩ := Application.ofText_eq_error_iff.1 h
  exact .application hgiven unknown

theorem reviewed_prioritySyntax (request : Request) :
    Reviewed request [.prioritySyntax] request.AsksPriority
      (given priorityOfText 50 request.priority) := by
  refine reviewed_given (fun s n h => ?_) (fun n asks => ⟨n, asks⟩) fun s fault hgiven h => ?_
  · unfold priorityOfText at h
    split at h
    · rename_i n' read
      obtain rfl := Except.ok.inj h
      exact Text.uint32?_eq_some_iff.1 read
    · contradiction
  · unfold priorityOfText at h
    split at h
    · contradiction
    · rename_i unread
      obtain rfl := Except.error.inj h
      refine .prioritySyntax hgiven fun n numeral => ?_
      rw [Text.uint32?_eq_some_iff.2 numeral] at unread
      contradiction

theorem reviewed_action (request : Request) :
    Reviewed request [.action] request.AsksAction
      (given RouteClass.ofActionText .intra request.action) := by
  refine reviewed_given (fun s class_ h => RouteClass.ofActionText_eq_ok_iff.1 h)
    (fun class_ asks => ⟨class_, asks⟩) fun s fault hgiven h => ?_
  obtain ⟨unknown, rfl⟩ := RouteClass.ofActionText_eq_error_iff.1 h
  exact .action hgiven unknown

theorem reviewed_list {α : Type} {read : String → Except Fault α} {text : Option String}
    {check : Check}
    (passes : (∀ s, text = some s → ∀ item ∈ Text.items s, ∃ value, read item = .ok value) →
      request.Passes check)
    (refuses : ∀ s fault, text = some s → FirstUnread read (Text.items s) fault →
      request.Refuses check fault) :
    Reviewed request [check] (Says (Lists read) [] text)
      (given (fun s => (Text.items s).mapM read) [] text) := by
  refine reviewed_given (fun s values h => mapM_eq_ok_iff.1 h) (fun values asks => ?_)
    fun s fault hgiven h => refuses s fault hgiven (firstUnread_of_mapM h)
  refine passes fun s hgiven item => ?_
  rw [hgiven] at asks
  exact Lists.exists_value asks

theorem reviewed_partialPath (request : Request) :
    Reviewed request [.partialPath] request.AsksPath
      (given ConnectPoint.listOfText [] request.partialPath) :=
  reviewed_list id fun _ _ => .partialPath

theorem reviewed_srcHosts (request : Request) :
    Reviewed request [.srcHosts] request.AsksSources
      (given HostId.listOfText [] request.srcHosts) :=
  reviewed_list id fun _ _ => .srcHosts

theorem reviewed_dstHosts (request : Request) :
    Reviewed request [.dstHosts] request.AsksTargets
      (given HostId.listOfText [] request.dstHosts) :=
  reviewed_list id fun _ _ => .dstHosts

theorem reviewed_regions {class_ : RouteClass} (asks : request.AsksAction class_) :
    Reviewed request [.regions] (fun _ => True)
      (checkRegions class_ request.source request.destination) := by
  by_cases same : request.source = request.destination
  · cases class_ with
    | intra =>
        have passes : request.Passes .regions :=
          ⟨fun _ => same, fun inter => absurd (asks.unique inter) (by decide)⟩
        rw [checkRegions, if_pos same]
        exact reviewed_pass passes trivial
    | inter =>
        rw [checkRegions, if_pos same]
        exact reviewed_refuse (.within asks same)
  · cases class_ with
    | intra =>
        rw [checkRegions, if_neg same]
        exact reviewed_refuse (.spans asks same)
    | inter =>
        have passes : request.Passes .regions :=
          ⟨fun intra => absurd (asks.unique intra) (by decide), fun _ => same⟩
        rw [checkRegions, if_neg same]
        exact reviewed_pass passes trivial

/-! ## The whole -/

/-- The policy carries what the request asks for, and nothing else but its id. -/
structure Describes (request : Request) (serial : UInt64) (now : Timestamp) (policy : Policy) :
    Prop where
  application : request.AsksApplication policy.profile.application
  priority : request.AsksPriority (UInt32.ofNat policy.priority.toNat)
  action : request.AsksAction policy.action
  partialPath : request.AsksPath policy.partialPath
  srcHosts : request.AsksSources policy.srcHosts
  dstHosts : request.AsksTargets policy.dstHosts
  srcRegion : policy.srcRegion = request.source
  dstRegion : policy.dstRegion = request.destination
  preference : policy.preference =
    (request.preference.map PathPreference.ofText).getD .bestPossible
  profileName : policy.profile.name = Text.trimmed request.profileName
  name : policy.name = policy.profile.application.name ++ ":" ++ policy.profile.name
  fresh : policy.state = .installRequested ∧ policy.version = 1 ∧ policy.createdAt = now ∧
    policy.profile.serial = serial ∧ policy.profile.criteria = []

/-- A draft as the request asks for it, before its last three checks. -/
structure Drafts (request : Request) (serial : UInt64) (draft : Draft) : Prop where
  application : request.AsksApplication draft.profile.application
  priority : request.AsksPriority draft.priority
  action : request.AsksAction draft.action
  partialPath : request.AsksPath draft.partialPath
  srcHosts : request.AsksSources draft.srcHosts
  dstHosts : request.AsksTargets draft.dstHosts
  srcRegion : draft.srcRegion = some request.source
  dstRegion : draft.dstRegion = some request.destination
  preference : draft.preference =
    (request.preference.map PathPreference.ofText).getD .bestPossible
  profileName : draft.profile.name = Text.trimmed request.profileName
  fresh : draft.state = .installRequested ∧ draft.version = 1 ∧
    draft.profile.serial = serial ∧ draft.profile.criteria = []

theorem reviewed_draft (request : Request) (serial : UInt64) :
    Reviewed request
      [.application, .prioritySyntax, .action, .partialPath, .srcHosts, .dstHosts, .regions]
      (Drafts request serial) (request.draft serial) := by
  unfold draft
  refine (reviewed_application request).step fun application hApplication => ?_
  refine (reviewed_prioritySyntax request).step fun priority hPriority => ?_
  refine (reviewed_action request).step fun action hAction => ?_
  refine (reviewed_partialPath request).step fun partialPath hPath => ?_
  refine (reviewed_srcHosts request).step fun srcHosts hSources => ?_
  refine (reviewed_dstHosts request).step fun dstHosts hTargets => ?_
  rw [regions_eq]
  refine (reviewed_regions hAction).step fun _ _ => reviewed_done ?_
  exact ⟨hApplication, hPriority, hAction, hPath, hSources, hTargets, rfl, rfl, rfl, rfl,
    rfl, rfl, rfl, rfl⟩

theorem named?_of_ne {region : String} (h : region ≠ "") :
    Draft.named? (some region) = some region := by
  simp [Draft.named?, h]

theorem reviewed_check {draft : Draft} {serial : UInt64} (drafts : Drafts request serial draft)
    (now : Timestamp) :
    Reviewed request [.priorityRange, .regionNamed, .profileNamed]
      (fun policy => Describes request serial now policy ∧ policy.id = draft.id)
      (draft.check now) := by
  have range : draft.priority < 1 ∨ 65535 < draft.priority ↔
      ¬ (1 ≤ draft.priority.toNat ∧ draft.priority.toNat ≤ 65535) := by
    simp only [UInt32.lt_iff_toNat_lt, UInt32.reduceToNat]
    omega
  unfold Draft.check
  rw [drafts.srcRegion, drafts.dstRegion]
  by_cases outside : draft.priority < 1 ∨ 65535 < draft.priority
  · rw [if_pos outside]
    exact reviewed_refuse (.priorityRange drafts.priority (range.1 outside))
  · have inside : 1 ≤ draft.priority.toNat ∧ draft.priority.toNat ≤ 65535 :=
      Decidable.not_not.1 fun h => outside (range.2 h)
    -- a number in range is kept by the narrower word of the policy
    have small : UInt32.ofNat draft.priority.toUInt16.toNat = draft.priority := by
      rw [UInt32.toNat_toUInt16, Nat.mod_eq_of_lt (Nat.lt_succ_of_le inside.2),
        UInt32.ofNat_toNat]
    rw [if_neg outside]
    refine Reviewed.after (fun n asks => drafts.priority.unique asks ▸ inside) ?_
    rcases Decidable.em (request.source = "") with unnamed | named
    · have missing : Draft.named? (some request.source) = none := by
        simp [Draft.named?, unnamed]
      rw [missing]
      exact reviewed_refuse (.regionNamed unnamed)
    · -- a request cannot leave the destination alone unnamed
      rw [named?_of_ne named, named?_of_ne fun h => named (source_of_destination h)]
      refine Reviewed.after named ?_
      rw [drafts.profileName]
      rcases Decidable.em (Text.trimmed request.profileName = "") with nameless | titled
      · simp only [if_pos nameless]
        exact reviewed_refuse (.profileNamed nameless)
      · simp only [if_neg titled]
        obtain ⟨state, version, serial, criteria⟩ := drafts.fresh
        refine reviewed_pass titled ⟨?_, rfl⟩
        exact
          { application := drafts.application
            priority := small.symm ▸ drafts.priority
            action := drafts.action
            partialPath := drafts.partialPath
            srcHosts := drafts.srcHosts
            dstHosts := drafts.dstHosts
            srcRegion := rfl
            dstRegion := rfl
            preference := drafts.preference
            profileName := drafts.profileName
            name := by rw [drafts.profileName]
            fresh := ⟨state, version, rfl, serial, criteria⟩ }

theorem reviewed_build (request : Request) (serial : UInt64) (now : Timestamp) (id : PolicyId) :
    Reviewed request Check.order
      (fun policy => Describes request serial now policy ∧ policy.id = id)
      (request.build serial now id) := by
  refine (reviewed_draft request serial).bind fun draft drafts => ?_
  have same : Drafts request serial { draft with id } :=
    { drafts with }
  exact reviewed_check same now

attribute [ext] Profile Policy

theorem Describes.unique {serial : UInt64} {now : Timestamp} {policy other : Policy}
    (h : Describes request serial now policy) (h' : Describes request serial now other)
    (id : other.id = policy.id) : other = policy := by
  obtain ⟨state, version, createdAt, profileSerial, criteria⟩ := h.fresh
  obtain ⟨state', version', createdAt', profileSerial', criteria'⟩ := h'.fresh
  have application := h'.application.unique h.application
  have priority := congrArg UInt32.toNat (h'.priority.unique h.priority)
  have action := h'.action.unique h.action
  have partialPath : other.partialPath = policy.partialPath :=
    Says.unique (fun _ => Lists.unique) h'.partialPath h.partialPath
  have srcHosts : other.srcHosts = policy.srcHosts :=
    Says.unique (fun _ => Lists.unique) h'.srcHosts h.srcHosts
  have dstHosts : other.dstHosts = policy.dstHosts :=
    Says.unique (fun _ => Lists.unique) h'.dstHosts h.dstHosts
  have sameProfile : other.profile = policy.profile := by
    refine Profile.ext (profileSerial'.trans profileSerial.symm) ?_ application
      (criteria'.trans criteria.symm)
    rw [h'.profileName, h.profileName]
  have samePriority : other.priority = policy.priority := by
    refine UInt16.toNat_inj.1 ?_
    have wide : ∀ w : UInt16, (UInt32.ofNat w.toNat).toNat = w.toNat := fun w => by
      rw [UInt32.toNat_ofNat', Nat.mod_eq_of_lt (Nat.lt_trans w.toNat_lt (by decide))]
    rwa [wide, wide] at priority
  refine Policy.ext id ?_ samePriority (state'.trans state.symm) (version'.trans version.symm)
    action ?_ ?_ srcHosts dstHosts partialPath ?_ sameProfile (createdAt'.trans createdAt.symm)
  · rw [h'.name, h.name, sameProfile]
  · rw [h'.srcRegion, h.srcRegion]
  · rw [h'.dstRegion, h.dstRegion]
  · rw [h'.preference, h.preference]

end Request

namespace Register

open Request (Check)

variable {r r' : Register} {request : Request} {serial : UInt64} {now : Timestamp}
  {policy : Policy} {fault : Fault}

theorem create_eq_error_iff {build : PolicyId → Except Fault Policy} :
    r.create build = .error fault ↔ build (PolicyId.next r.idsInUse) = .error fault := by
  cases hbuild : build (PolicyId.next r.idsInUse) with
  | error other => simp [create, hbuild, bind, Except.bind]
  | ok built => simp [create, hbuild, bind, Except.bind, pure, Except.pure]

theorem passes_of_createRequest (h : r.createRequest request serial now = .ok (policy, r')) :
    (∀ check, request.Passes check) ∧ request.Describes serial now policy ∧
      policy.id = PolicyId.next r.idsInUse ∧
      r' = { r with current := r.current.insert policy.id policy }.note (.ofPolicy policy) := by
  rw [createRequest_eq] at h
  obtain ⟨built, hbuilt, rfl, after⟩ := create_eq_ok h
  have reviewed := request.reviewed_build serial now (PolicyId.next r.idsInUse)
  rw [hbuilt] at reviewed
  obtain ⟨passes, describes, id⟩ := reviewed
  have same : built.withId (PolicyId.next r.idsInUse) = built := by
    rw [← id]
    rfl
  rw [same] at after ⊢
  refine ⟨fun check => passes check ?_, describes, id, after⟩
  cases check <;> decide

theorem refused_of_createRequest (h : r.createRequest request serial now = .error fault) :
    ∃ check, request.FirstViolated check ∧ request.Refuses check fault := by
  rw [createRequest_eq, create_eq_error_iff] at h
  have reviewed := request.reviewed_build serial now (PolicyId.next r.idsInUse)
  rw [h] at reviewed
  obtain ⟨before, check, after, order, good, refuses⟩ := reviewed
  exact ⟨check, ⟨before, after, order, good, Request.not_passes_of_refuses refuses⟩, refuses⟩

/--
A request is admitted where it passes all checks, and the policy is then the one that it describes,
under an id that was free.  A request is refused with the fault of the first check that it does not
pass.
-/
theorem createRequest_admits_exactly (r : Register) (request : Request) (serial : UInt64)
    (now : Timestamp) :
    ((∃ policy r', r.createRequest request serial now = .ok (policy, r')) ↔
      ∀ check, request.Passes check) ∧
    (∀ policy r', r.createRequest request serial now = .ok (policy, r') →
      request.Describes serial now policy ∧
      (∀ other, request.Describes serial now other → other.id = policy.id → other = policy) ∧
      (∀ free, free ∉ r.idsInUse → policy.id ∉ r.idsInUse) ∧
      r'.current.get? policy.id = some policy) ∧
    ∀ fault, r.createRequest request serial now = .error fault ↔
      ∃ check, request.FirstViolated check ∧ request.Refuses check fault := by
  refine ⟨⟨?_, fun passes => ?_⟩, fun policy r' h => ?_, fun fault => ⟨refused_of_createRequest, ?_⟩⟩
  · rintro ⟨policy, r', h⟩
    exact (passes_of_createRequest h).1
  · cases h : r.createRequest request serial now with
    | ok result => exact ⟨result.1, result.2, rfl⟩
    | error fault =>
        obtain ⟨check, -, refuses⟩ := refused_of_createRequest h
        exact absurd (passes check) (Request.not_passes_of_refuses refuses)
  · obtain ⟨-, describes, id, rfl⟩ := passes_of_createRequest h
    refine ⟨describes, fun other => describes.unique, fun free hfree => ?_, ?_⟩
    · rw [id]
      exact PolicyId.next_not_mem hfree
    · simp [note]
  · rintro ⟨check, violated, refuses⟩
    cases h : r.createRequest request serial now with
    | ok result =>
        obtain ⟨before, after, -, -, bad⟩ := violated
        exact absurd ((passes_of_createRequest h).1 check) bad
    | error other =>
        -- only one check is violated first, and it has only one fault
        obtain ⟨check', violated', refuses'⟩ := refused_of_createRequest h
        obtain rfl := violated.unique violated'
        rw [refuses.unique refuses']

end Register

end PolicyRouting
