import PolicyRouting.Proofs.Rule.Kinds
import PolicyRouting.Routing.Match

/-!
# The criteria of a packet

The criteria of a packet are added to its selector one by one.  They are of
different kinds and stand in one fixed order, whichever of them are switched
on, so none replaces another and the selector holds them as they are listed.
-/

namespace PolicyRouting.Settings

variable {settings : Settings} {class_ : RouteClass} {frame : Frame} {policy : Policy}
  {header : Ipv4Header} {carrier : Carrier} {criteria : List Criterion}

def transportPlaces : Carrier → List Nat
  | .tcp => [6, 9, 10]
  | .udp => [6, 11, 12]
  | .icmp => [6, 13, 14]

/-- The order in which the kinds stand in a selector, each by its place in the list of kinds. -/
def places (carrier : Carrier) : List Nat :=
  [1] ++ [7, 8, 2, 3] ++ [4] ++ [5] ++ transportPlaces carrier

theorem places_nodup (carrier : Carrier) : (places carrier).Nodup := by
  cases carrier <;> decide

theorem places_addressCriteria :
    ((settings.addressCriteria class_ frame header).map (·.kind.val)).Sublist [7, 8, 2, 3] := by
  unfold addressCriteria macCriteria
  split
  · cases class_ with
    | inter => exact (by decide : [7, 8].Sublist [7, 8, 2, 3])
    | intra =>
        cases settings.dstMacOnly with
        | true => exact (by decide : [7, 8, 3].Sublist [7, 8, 2, 3])
        | false => exact List.Sublist.refl [7, 8, 2, 3]
  · exact List.nil_sublist _

theorem places_vlanCriteria :
    ((settings.vlanCriteria frame).map (·.kind.val)).Sublist [4] := by
  unfold vlanCriteria
  split
  · exact List.Sublist.refl [4]
  · exact List.nil_sublist _

theorem places_dscpCriteria :
    ((settings.dscpCriteria header).map (·.kind.val)).Sublist [5] := by
  unfold dscpCriteria
  split
  · exact List.Sublist.refl [5]
  · exact List.nil_sublist _

theorem places_transportCriteria? {transport : Transport}
    (h : settings.transportCriteria? policy carrier transport = some criteria) :
    (criteria.map (·.kind.val)).Sublist (transportPlaces carrier) := by
  revert h
  fun_cases transportCriteria? <;> intro h
  case case1 | case3 | case5 =>
    obtain rfl := Option.some.inj h
    split
    · exact List.Sublist.refl _
    · exact List.nil_sublist _
  all_goals contradiction

theorem places_criteria?
    (h : settings.criteria? class_ frame policy carrier header = some criteria) :
    (criteria.map (·.kind.val)).Sublist (places carrier) := by
  rw [criteria?, Option.ite_none_right_eq_some, Option.map_eq_some_iff] at h
  obtain ⟨-, transport, htransport, rfl⟩ := h
  simp only [List.map_append]
  refine .append (.append (.append (.append ?_ ?_) ?_) ?_) ?_
  · exact List.Sublist.refl [1]
  · exact places_addressCriteria
  · exact places_vlanCriteria
  · exact places_dscpCriteria
  · exact places_transportCriteria? htransport

theorem criteria?_kinds_nodup
    (h : settings.criteria? class_ frame policy carrier header = some criteria) :
    (criteria.map Criterion.kind).Nodup := by
  have distinct := (places_nodup carrier).sublist (places_criteria? h)
  rw [List.Nodup, List.pairwise_map] at distinct ⊢
  exact distinct.imp fun differ same => differ (congrArg Fin.val same)

theorem selector?_eq_some_iff_criteria {dstHost : HostId} {selector : Selector} :
    settings.selector? class_ frame policy dstHost = some selector ↔
      ∃ carrier, carrier? class_ policy.application = some carrier ∧
        ∃ header, frame.ipv4? = some header ∧
          policy.allowsHosts (.untagged frame.src) dstHost = true ∧
          settings.criteria? class_ frame policy carrier header = some selector.criteria := by
  have listed : ∀ carrier header,
      (settings.criteria? class_ frame policy carrier header).map Selector.ofList = some selector ↔
        settings.criteria? class_ frame policy carrier header = some selector.criteria := by
    intro carrier header
    rw [Option.map_congr fun _ made => Selector.ofList_of_nodup (criteria?_kinds_nodup made),
      Option.map_eq_some_iff]
    constructor
    · rintro ⟨criteria, made, rfl⟩
      exact made
    · exact fun made => ⟨_, made, rfl⟩
  simp only [selector?, Option.bind_eq_bind, Option.bind_eq_some_iff, Option.ite_none_right_eq_some,
    listed]

end PolicyRouting.Settings
