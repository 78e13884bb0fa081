import P2pUsb.Policy.Selection

/-! The access decision as documented: the most specific policy, then its checks
in order. The engine decides the same, except that an empty client list, documented
to admit every client, admits nobody. -/
namespace P2pUsb

/-- How specific a device filter is, the most specific level first. -/
inductive FilterLevel where
  | exact | vendor | any
  deriving DecidableEq, Repr

def FilterLevel.all : List FilterLevel := [.exact, .vendor, .any]

def FilterLevel.matches (info : DeviceInfo) (filter : List Char) : FilterLevel → Bool
  | .exact => eqIgnoreAsciiCase filter (hex4 info.vendorId ++ ':' :: hex4 info.productId)
  | .vendor => filter == hex4 info.vendorId ++ [':', '*']
  | .any => filter == ['*']

/-- Within one level the first policy of the list counts. -/
def documentedPolicy (policies : List DevicePolicy) (info : DeviceInfo) : Option DevicePolicy :=
  FilterLevel.all.findSome? fun level =>
    policies.find? fun p => level.matches info p.deviceFilter.toList

/-- An empty list of clients admits every client. -/
def documentedAdmits (policy : DevicePolicy) (client : EndpointId) : Bool :=
  policy.allowedClients.isEmpty || policy.allowedClients.any fun c =>
    c.toList == ['*'] || eqIgnoreAsciiCase c.toList client.text.toList

/-- Some window of the list is open. -/
def insideWindow (time : TimeOfDay) (windows : List String) : Bool :=
  windows.any fun w => (PolicyEngine.parseTimeWindow w).any fun r =>
    PolicyEngine.timeInRange time r.1 r.2

/-- An empty or absent list of windows restricts nothing. -/
def documentedClosed (time : TimeOfDay) (policy : DevicePolicy) : Bool :=
  policy.timeWindows.any fun windows => !windows.isEmpty && !insideWindow time windows

/-- The checks of a policy in order, each with the reason it gives when it fails. -/
def documentedChecks (time : TimeOfDay) (policy : DevicePolicy) (client : EndpointId)
    (info : DeviceInfo) : List (Bool × PolicyDenialReason) := [
  (documentedAdmits policy client, .clientNotAllowed),
  (!policy.restrictsClass info, .deviceClassRestricted info.deviceClass),
  (!documentedClosed time policy,
    .outsideTimeWindow (String.ofList (dec2 time.1 ++ ':' :: dec2 time.2))
      (policy.timeWindows.getD []))]

def documentedDecision (engine : PolicyEngine) (wall : Nat) (client : EndpointId)
    (info : DeviceInfo) : PolicyDecision :=
  if engine.policies = [] then .allow
  else match documentedPolicy engine.policies info with
    | none => .deny .noMatchingPolicy
    | some policy =>
        let time := PolicyEngine.getCurrentTimeWithOffset wall engine.timezoneOffsetHours
        match (documentedChecks time policy client info).find? fun check => !check.1 with
        | none => .allow
        | some (_, reason) => .deny reason

theorem documented_policy_eq (policies : List DevicePolicy) (info : DeviceInfo) :
    documentedPolicy policies info =
      (policies.find? fun p => FilterLevel.exact.matches info p.deviceFilter.toList).or
        ((policies.find? fun p => FilterLevel.vendor.matches info p.deviceFilter.toList).or
          (policies.find? fun p => FilterLevel.any.matches info p.deviceFilter.toList)) := by
  simp only [documentedPolicy, FilterLevel.all, List.findSome?_cons, List.findSome?_nil]
  cases policies.find? fun p => FilterLevel.exact.matches info p.deviceFilter.toList with
  | some p => rfl
  | none =>
      cases policies.find? fun p => FilterLevel.vendor.matches info p.deviceFilter.toList with
      | some p => rfl
      | none =>
          cases policies.find? fun p => FilterLevel.any.matches info p.deviceFilter.toList <;> rfl

/-- No device identifier is the single character `*`. -/
theorem exact_matches (info : DeviceInfo) (filter : List Char) :
    FilterLevel.exact.matches info filter = PolicyEngine.filterMatchesExact filter
      (hex4 info.vendorId ++ ':' :: hex4 info.productId) := by
  rw [FilterLevel.matches, PolicyEngine.filterMatchesExact, Bool.eq_iff_iff, Bool.and_eq_true,
    bne_iff_ne]
  refine ⟨fun same => ⟨?_, same⟩, fun both => both.2⟩
  rintro rfl
  have lengths := congrArg List.length (eq_ignore_case_iff.mp same)
  simp only [List.length_map, List.length_append, List.length_cons, List.length_nil, hex4,
    List.length_leftpad] at lengths
  omega

theorem documented_admits_eq (policy : DevicePolicy) (client : EndpointId) :
    documentedAdmits policy client =
      (policy.allowedClients.isEmpty || PolicyEngine.isClientAllowed policy client) := by
  rw [documentedAdmits, PolicyEngine.isClientAllowed, Bool.eq_iff_iff]
  simp only [Bool.or_eq_true, List.any_eq_true, and_or_left, exists_or]

theorem inside_window_eq (time : TimeOfDay) (windows : List String) :
    insideWindow time windows = (PolicyEngine.currentWindow time windows).isSome := by
  rw [insideWindow, PolicyEngine.currentWindow, List.isSome_find?, List.any_filterMap]
  rfl

namespace PolicyEngine
variable {engine : PolicyEngine} {wall : Nat} {client : EndpointId} {info : DeviceInfo}
  {p : DevicePolicy}

theorem select_policy_documented :
    engine.selectPolicy info = documentedPolicy engine.policies info := by
  simp only [documented_policy_eq, exact_matches]
  exact select_policy_eq

theorem closed_now_documented : engine.closedNow wall p =
    documentedClosed (getCurrentTimeWithOffset wall engine.timezoneOffsetHours) p := by
  simp only [closedNow, documentedClosed, inside_window_eq]
  rfl

theorem documented_decision_selected (selected : documentedPolicy engine.policies info = some p) :
    documentedDecision engine wall client info =
      if documentedAdmits p client = false then .deny .clientNotAllowed
      else if p.restrictsClass info = true then .deny (.deviceClassRestricted info.deviceClass)
      else if engine.closedNow wall p = true then
        .deny (.outsideTimeWindow (engine.isWithinTimeWindow wall []).2 (p.timeWindows.getD []))
      else .allow := by
  have configured : engine.policies ≠ [] := by
    intro empty
    rw [empty] at selected
    cases selected
  rw [documentedDecision, if_neg configured, selected]
  simp only [documentedChecks, closed_now_documented, isWithinTimeWindow]
  cases documentedAdmits p client <;> cases p.restrictsClass info <;>
    cases documentedClosed (getCurrentTimeWithOffset wall engine.timezoneOffsetHours) p <;> rfl

theorem documented_decision_unselected (unselected : documentedPolicy engine.policies info = none) :
    documentedDecision engine wall client info = engine.checkAccess wall client info := by
  rw [check_access_unselected (select_policy_documented.trans unselected), documentedDecision,
    unselected]
  cases engine.policies <;> rfl

/-- The engine decides as documented exactly if the policy it uses lists a client. -/
theorem check_access_documented_iff (engine : PolicyEngine) (wall : Nat) (client : EndpointId)
    (info : DeviceInfo) :
    engine.checkAccess wall client info = documentedDecision engine wall client info ↔
      ∀ p, documentedPolicy engine.policies info = some p → p.allowedClients ≠ [] := by
  cases selected : documentedPolicy engine.policies info with
  | none =>
      refine iff_of_true (documented_decision_unselected selected).symm fun p wrong => ?_
      cases wrong
  | some p =>
  simp only [Option.some.injEq, forall_eq']
  rw [check_access_selected (select_policy_documented.trans selected),
    documented_decision_selected selected, evaluate_policy_eq, documented_admits_eq]
  cases clients : p.allowedClients with
  | nil =>
      have refused : isClientAllowed p client = false := by
        rw [isClientAllowed, clients, List.any_nil, List.any_nil, Bool.or_false]
      refine iff_of_false ?_ fun listed => listed rfl
      rw [if_pos refused, if_neg (by simp only [List.isEmpty_nil, Bool.true_or, reduceCtorEq,
        not_false_eq_true])]
      split_ifs <;> simp
  | cons c rest =>
      simp only [List.isEmpty_cons, Bool.false_or, ne_eq, reduceCtorEq, not_false_eq_true]

/-- One policy for every device that lists no client. -/
def emptyListRules : PolicyEngine where
  policies := [{
    deviceFilter := "*"
    allowedClients := []
    timeWindows := none
    maxSessionDuration := none
    restrictedDeviceClasses := none }]
  timezoneOffsetHours := 0

theorem empty_list_admits_nobody :
    documentedDecision emptyListRules 0 ⟨"guest"⟩ rootHub = .allow ∧
      emptyListRules.checkAccess 0 ⟨"guest"⟩ rootHub = .deny .clientNotAllowed := by
  decide

end PolicyEngine
end P2pUsb
