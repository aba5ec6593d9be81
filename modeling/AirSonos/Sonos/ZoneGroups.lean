import AirSonos.Sonos.Topology
import Mathlib.Data.List.Induction

/-!
# Members and the groups around them

Which group a member lies in is a matter of the elements that are open around it. The parser
follows one coordinator instead, that of the last group tag it has read. Both agree unless a
group closes itself or contains another one.
-/

namespace AirSonos

/-! ### The document -/

namespace XmlElement

def isMember (element : XmlElement) : Bool :=
  element.localName = "ZoneGroupMember" ∨ element.localName = "Satellite"

/-- The coordinator of a group, if the element is a group that has one. -/
def groupCoordinator (element : XmlElement) : Option String :=
  if element.localName = "ZoneGroup" then attr element "Coordinator" else none

end XmlElement

namespace XmlEvent

def element? : XmlEvent → Option XmlElement
  | start element => some element
  | empty element => some element
  | _ => none

/-- The open elements behind a tag, innermost first. -/
def nesting (stack : List XmlElement) : XmlEvent → List XmlElement
  | start element => element :: stack
  | endTag _ => stack.tail
  | _ => stack

def isGroupTag : XmlEvent → Bool
  | start element => element.localName = "ZoneGroup"
  | empty element => element.localName = "ZoneGroup"
  | endTag localName => localName = "ZoneGroup"
  | _ => false

end XmlEvent

def openElements (events : List XmlEvent) : List XmlElement :=
  events.foldl XmlEvent.nesting []

/-- The coordinator of the innermost group with one. -/
def enclosingCoordinator (stack : List XmlElement) : Option String :=
  stack.findSome? XmlElement.groupCoordinator

/-- The coordinator that the last group tag names. An end tag names none. -/
def lastCoordinator (events : List XmlEvent) : Option String :=
  (events.reverse.find? XmlEvent.isGroupTag).bind fun tag =>
    tag.element?.bind fun element => attr element "Coordinator"

/-- The text has no error, and every element has ended at its end. -/
def complete : List XmlElement → List XmlEvent → Bool
  | stack, [] => stack.isEmpty
  | _, .error :: _ => false
  | stack, event :: events => complete (event.nesting stack) events

/-- What a member in the group of a coordinator is listed as. -/
def listedMember (coordinator uuid : String) (element : XmlElement) : ZoneGroupMember where
  uuid := uuid
  zoneName := (attr element "ZoneName").getD ""
  location := attr element "Location"
  isVisibleRoom := element.localName = "ZoneGroupMember" ∧ attr element "Invisible" ≠ some "1"
  isGroupCoordinator := element.localName = "ZoneGroupMember" ∧ uuid = coordinator

/-- The member that an element adds in the group of a coordinator, if there is a group. -/
def groupMember (coordinator : Option String) (element : XmlElement) : List ZoneGroupMember :=
  match coordinator, attr element "UUID" with
  | some coordinator, some uuid =>
    if element.isMember ∧ uuid ≠ "" then [listedMember coordinator uuid element] else []
  | _, _ => []

def XmlEvent.groupMember (coordinator : Option String) (event : XmlEvent) :
    List ZoneGroupMember :=
  event.element?.elim [] (AirSonos.groupMember coordinator)

/-- The members of the groups with a coordinator, in document order. -/
def groupMembers : List XmlElement → List XmlEvent → List ZoneGroupMember
  | _, [] => []
  | stack, event :: events =>
    event.groupMember (enclosingCoordinator stack) ++ groupMembers (event.nesting stack) events

theorem groupMembers_append (stack : List XmlElement) (before after : List XmlEvent) :
    groupMembers stack (before ++ after) =
      groupMembers stack before ++ groupMembers (before.foldl XmlEvent.nesting stack) after := by
  induction before generalizing stack with
  | nil => rfl
  | cons event events ih =>
    rw [List.cons_append, groupMembers, groupMembers, ih, List.append_assoc, List.foldl_cons]

theorem groupMembers_snoc (before : List XmlEvent) (event : XmlEvent) :
    groupMembers [] (before ++ [event]) = groupMembers [] before ++
      event.groupMember (enclosingCoordinator (openElements before)) := by
  rw [groupMembers_append, groupMembers, groupMembers, List.append_nil]
  rfl

theorem lastCoordinator_snoc (before : List XmlEvent) (event : XmlEvent) :
    lastCoordinator (before ++ [event]) =
      if event.isGroupTag then event.element?.bind fun element => attr element "Coordinator"
      else lastCoordinator before := by
  unfold lastCoordinator
  rw [List.reverse_append, List.reverse_singleton, List.singleton_append, List.find?_cons]
  cases event.isGroupTag <;> rfl

/-! ### The parser -/

theorem toList_zoneGroupMember (coordinator : String) {element : XmlElement}
    (member : element.isMember = true) :
    (zoneGroupMember coordinator element).toList = groupMember (some coordinator) element := by
  have hflag : (!element.isSatellite) = decide (element.localName = "ZoneGroupMember") := by
    simp only [XmlElement.isMember, decide_eq_true_eq] at member
    rcases member with hroom | hsatellite
    · simp [XmlElement.isSatellite, hroom]
    · simp [XmlElement.isSatellite, hsatellite]
  unfold zoneGroupMember groupMember
  cases huuid : attr element "UUID" with
  | none => rfl
  | some uuid =>
    by_cases hempty : uuid = ""
    · simp [Option.filter, hempty]
    · simp [Option.filter, hempty, hflag, member, listedMember, XmlElement.isInvisible,
        eq_comm (a := uuid)]

namespace TopologyReader

/-- One event, other than an error. -/
def next (reader : TopologyReader) : XmlEvent → TopologyReader
  | .start element => { reader with openElements := reader.openElements + 1 }.element element
  | .empty element => reader.element element
  | .endTag localName => reader.endTag localName
  | _ => reader

def after (events : List XmlEvent) : TopologyReader :=
  events.foldl next {}

theorem after_snoc (before : List XmlEvent) (event : XmlEvent) :
    after (before ++ [event]) = (after before).next event := by
  unfold after
  rw [List.foldl_append, List.foldl_cons, List.foldl_nil]

theorem element_openElements (reader : TopologyReader) (element : XmlElement) :
    (reader.element element).openElements = reader.openElements := by
  unfold TopologyReader.element
  split
  · rfl
  split
  · split <;> rfl
  · rfl

/-- What is read counts only if the text is complete. -/
theorem read_eq {stack : List XmlElement} {reader : TopologyReader}
    (depth : reader.openElements = stack.length) (events : List XmlEvent) :
    reader.read events =
      if complete stack events then (events.foldl next reader).members else [] := by
  induction events generalizing stack reader with
  | nil =>
    unfold TopologyReader.read complete
    cases stack with
    | nil => simp [depth]
    | cons element stack => simp [depth]
  | cons event events ih =>
    cases event with
    | start element =>
      refine ih ?_
      rw [element_openElements, depth]
      rfl
    | empty element => exact ih ((element_openElements reader element).trans depth)
    | endTag localName =>
      refine ih ?_
      rw [TopologyReader.endTag, depth]
      exact List.length_tail.symm
    | other => exact ih depth
    | error => rfl

theorem element_coordinator (reader : TopologyReader) (element : XmlElement) :
    (reader.element element).coordinator =
      if element.localName = "ZoneGroup" then attr element "Coordinator"
      else reader.coordinator := by
  unfold TopologyReader.element
  split
  · rfl
  split
  · split
    · rfl
    · rfl
  · rfl

/-- The coordinator the parser follows is the one that the last group tag names. -/
theorem after_coordinator (events : List XmlEvent) :
    (after events).coordinator = lastCoordinator events := by
  induction events using List.reverseRecOn with
  | nil => rfl
  | append_singleton before event ih =>
    rw [after_snoc, lastCoordinator_snoc, ← ih]
    cases event with
    | start element =>
      rw [next, element_coordinator]
      simp only [XmlEvent.isGroupTag, XmlEvent.element?, Option.bind_some, decide_eq_true_eq]
    | empty element =>
      rw [next, element_coordinator]
      simp only [XmlEvent.isGroupTag, XmlEvent.element?, Option.bind_some, decide_eq_true_eq]
    | endTag localName =>
      simp only [next, TopologyReader.endTag, XmlEvent.isGroupTag, XmlEvent.element?,
        Option.bind_none, decide_eq_true_eq]
    | other => rfl
    | error => rfl

theorem element_members (reader : TopologyReader) (element : XmlElement) :
    (reader.element element).members =
      reader.members ++ groupMember reader.coordinator element := by
  have hstranger (h : element.isMember = false) (coordinator : Option String) :
      groupMember coordinator element = [] := by
    unfold groupMember
    split
    · simp [h]
    · rfl
  unfold TopologyReader.element
  by_cases hgroup : element.localName = "ZoneGroup"
  · rw [if_pos hgroup, hstranger (by simp [XmlElement.isMember, hgroup]), List.append_nil]
  · rw [if_neg hgroup]
    by_cases hmember : element.localName = "ZoneGroupMember" ∨ element.localName = "Satellite"
    · rw [if_pos hmember]
      cases reader.coordinator with
      | none => simp [groupMember]
      | some coordinator =>
        have hlisted : element.isMember = true := decide_eq_true hmember
        simp only [toList_zoneGroupMember coordinator hlisted]
    · rw [if_neg hmember, hstranger (decide_eq_false hmember), List.append_nil]

theorem after_members (before : List XmlEvent) (event : XmlEvent) :
    (after (before ++ [event])).members =
      (after before).members ++ event.groupMember (lastCoordinator before) := by
  rw [after_snoc, ← after_coordinator]
  cases event with
  | start element => exact element_members { after before with openElements := _ } element
  | empty element => exact element_members _ element
  | endTag localName => exact (List.append_nil _).symm
  | other => exact (List.append_nil _).symm
  | error => exact (List.append_nil _).symm

end TopologyReader

theorem parseZoneGroupState_eq (events : List XmlEvent) :
    parseZoneGroupState events =
      if complete [] events then (TopologyReader.after events).members else [] :=
  TopologyReader.read_eq rfl events

/-! ### Where both agree -/

/-- A named coordinator stands for the one around a member of this UUID: there is a group for
both or for none, and a room coordinates both or none. -/
def SpeaksFor (named around : Option String) (element : XmlElement) (uuid : String) : Prop :=
  (named.isSome ↔ around.isSome) ∧
    (element.localName = "ZoneGroupMember" → (named = some uuid ↔ around = some uuid))

theorem listedMember_eq_iff {named around uuid : String} {element : XmlElement} :
    listedMember named uuid element = listedMember around uuid element ↔
      (element.localName = "ZoneGroupMember" → (named = uuid ↔ around = uuid)) := by
  simp only [listedMember, ZoneGroupMember.mk.injEq, true_and, decide_eq_decide]
  constructor
  · intro h room
    simpa only [room, true_and, eq_comm] using h
  · intro h
    constructor
    · rintro ⟨room, rfl⟩
      exact ⟨room, ((h room).mp rfl).symm⟩
    · rintro ⟨room, rfl⟩
      exact ⟨room, ((h room).mpr rfl).symm⟩

theorem groupMember_eq_iff (named around : Option String) (element : XmlElement) :
    groupMember named element = groupMember around element ↔
      (element.isMember = true → ∀ uuid, attr element "UUID" = some uuid → uuid ≠ "" →
        SpeaksFor named around element uuid) := by
  cases huuid : attr element "UUID" with
  | none => simp [groupMember, huuid]
  | some uuid =>
    by_cases hlisted : element.isMember = true ∧ uuid ≠ ""
    · have hgroup (coordinator : String) : groupMember (some coordinator) element =
          [listedMember coordinator uuid element] := by
        simp [groupMember, huuid, hlisted]
      have hnone : groupMember none element = [] := rfl
      have hspeaks : (element.isMember = true → ∀ other, some uuid = some other → other ≠ "" →
          SpeaksFor named around element other) ↔ SpeaksFor named around element uuid := by
        constructor
        · intro h
          exact h hlisted.1 uuid rfl hlisted.2
        · rintro h - other hother -
          cases hother
          exact h
      rw [hspeaks, SpeaksFor]
      cases named with
      | none =>
        cases around with
        | none => simp
        | some around => simp [hgroup, hnone]
      | some named =>
        cases around with
        | none => simp [hgroup, hnone]
        | some around =>
          simp only [hgroup, List.cons.injEq, and_true, listedMember_eq_iff, Option.isSome_some,
            true_and, Option.some.injEq]
    · have hstranger (coordinator : Option String) : groupMember coordinator element = [] := by
        unfold groupMember
        split
        · next hother =>
          rw [huuid] at hother
          cases hother
          exact if_neg hlisted
        · rfl
      rw [hstranger, hstranger]
      refine iff_of_true rfl ?_
      intro hmember other hother hnonempty
      cases hother
      exact absurd ⟨hmember, hnonempty⟩ hlisted

/-- An incomplete text lists nobody. Of a complete one, each element is listed exactly if it is a
member of a group with a coordinator, as soon as it is read and in the result. -/
def AcceptsGroupMembers (events : List XmlEvent) : Prop :=
  (complete [] events = false → parseZoneGroupState events = []) ∧
    (complete [] events = true → parseZoneGroupState events = groupMembers [] events ∧
      ∀ before, before <+: events →
        (TopologyReader.after before).members = groupMembers [] before)

/-- Before every member of a complete text, the last group tag speaks for the group around it. -/
def LastTagsSpeak (events : List XmlEvent) : Prop :=
  complete [] events = true → ∀ before event after element uuid,
    events = before ++ event :: after → event.element? = some element →
    element.isMember = true → attr element "UUID" = some uuid → uuid ≠ "" →
    SpeaksFor (lastCoordinator before) (enclosingCoordinator (openElements before)) element uuid

theorem acceptsGroupMembers_iff (events : List XmlEvent) :
    AcceptsGroupMembers events ↔ LastTagsSpeak events := by
  constructor
  · rintro ⟨-, haccepts⟩ hcomplete before event after element uuid rfl htag hmember huuid hnonempty
    have hstarts := (haccepts hcomplete).2
    have hbefore := hstarts before (List.prefix_append _ _)
    have hread := hstarts (before ++ [event]) ⟨after, by simp⟩
    rw [TopologyReader.after_members, groupMembers_snoc, hbefore] at hread
    have hentry := List.append_cancel_left hread
    simp only [XmlEvent.groupMember, htag, Option.elim_some] at hentry
    exact (groupMember_eq_iff _ _ element).mp hentry hmember uuid huuid hnonempty
  · intro hspeak
    constructor
    · intro hbroken
      rw [parseZoneGroupState_eq, hbroken]
      rfl
    · intro hcomplete
      have hstarts (before : List XmlEvent) (hstart : before <+: events) :
          (TopologyReader.after before).members = groupMembers [] before := by
        induction before using List.reverseRecOn with
        | nil => rfl
        | append_singleton before event ih =>
          have hentry : event.groupMember (lastCoordinator before) =
              event.groupMember (enclosingCoordinator (openElements before)) := by
            unfold XmlEvent.groupMember
            cases htag : event.element? with
            | none => rfl
            | some element =>
              obtain ⟨after, hafter⟩ := hstart
              refine (groupMember_eq_iff _ _ element).mpr fun hmember uuid huuid hnonempty => ?_
              exact hspeak hcomplete before event after element uuid (by simp [← hafter]) htag
                hmember huuid hnonempty
          rw [TopologyReader.after_members, groupMembers_snoc, hentry,
            ih ((List.prefix_append _ _).trans hstart)]
      refine ⟨?_, hstarts⟩
      rw [parseZoneGroupState_eq, if_pos hcomplete, hstarts events (List.prefix_refl _)]

/-- A group that closes itself lends its coordinator to the member behind it. -/
def strayMember : List XmlEvent :=
  [.start ⟨"ZoneGroups", []⟩, .empty ⟨"ZoneGroup", [("Coordinator", "A")]⟩,
    .empty ⟨"ZoneGroupMember", [("UUID", "B"), ("ZoneName", "Kitchen")]⟩, .endTag "ZoneGroups"]

theorem lists_stray_member : complete [] strayMember = true ∧ groupMembers [] strayMember = [] ∧
    parseZoneGroupState strayMember = [⟨"B", "Kitchen", none, true, false⟩] := by
  decide

/-! ### Plain topologies -/

/-- End tags match, no group closes itself and no group contains another one. -/
structure Plain (events : List XmlEvent) : Prop where
  matched : ∀ before localName after, events = before ++ .endTag localName :: after →
    ∃ element rest, openElements before = element :: rest ∧ element.localName = localName
  filled : ∀ before element after, events = before ++ .empty element :: after →
    element.localName ≠ "ZoneGroup"
  flat : ∀ before element after, events = before ++ .start element :: after →
    element.localName = "ZoneGroup" → ∀ outer ∈ openElements before, outer.localName ≠ "ZoneGroup"

/-- The last group tag names the coordinator of the one group that is open, if there is one. -/
structure Followed (named : Option String) (stack : List XmlElement) : Prop where
  named_eq : named = enclosingCoordinator stack
  single : (stack.filter fun element => element.localName = "ZoneGroup").length ≤ 1

theorem enclosingCoordinator_cons (element : XmlElement) (stack : List XmlElement) :
    enclosingCoordinator (element :: stack) =
      element.groupCoordinator.or (enclosingCoordinator stack) := by
  rw [enclosingCoordinator, List.findSome?_cons]
  cases element.groupCoordinator <;> rfl

theorem enclosingCoordinator_of_flat {stack : List XmlElement}
    (flat : ∀ element ∈ stack, element.localName ≠ "ZoneGroup") :
    enclosingCoordinator stack = none := by
  rw [enclosingCoordinator, List.findSome?_eq_none_iff]
  intro element hmem
  exact if_neg (flat element hmem)

theorem openElements_snoc (before : List XmlEvent) (event : XmlEvent) :
    openElements (before ++ [event]) = event.nesting (openElements before) := by
  rw [openElements, List.foldl_append, List.foldl_cons, List.foldl_nil]
  rfl

namespace Followed

variable {named : Option String} {stack : List XmlElement}

theorem start (h : Followed named stack) {element : XmlElement}
    (flat : element.localName = "ZoneGroup" → ∀ outer ∈ stack, outer.localName ≠ "ZoneGroup") :
    Followed (if element.localName = "ZoneGroup" then attr element "Coordinator" else named)
      (element :: stack) := by
  by_cases hgroup : element.localName = "ZoneGroup"
  · have hstack := flat hgroup
    have hnone : stack.filter (fun element => element.localName = "ZoneGroup") = [] :=
      List.filter_eq_nil_iff.mpr fun outer hmem => by simpa using hstack outer hmem
    constructor
    · rw [if_pos hgroup, enclosingCoordinator_cons, enclosingCoordinator_of_flat hstack,
        Option.or_none, XmlElement.groupCoordinator, if_pos hgroup]
    · simp [hgroup, hnone]
  · constructor
    · rw [if_neg hgroup, enclosingCoordinator_cons, XmlElement.groupCoordinator, if_neg hgroup,
        Option.none_or, h.named_eq]
    · simpa [hgroup] using h.single

theorem finish {element : XmlElement} (h : Followed named (element :: stack)) :
    Followed (if element.localName = "ZoneGroup" then none else named) stack := by
  have hsingle := h.single
  rw [List.filter_cons] at hsingle
  by_cases hgroup : element.localName = "ZoneGroup"
  · rw [if_pos (decide_eq_true hgroup), List.length_cons] at hsingle
    have hnone : stack.filter (fun element => element.localName = "ZoneGroup") = [] :=
      List.length_eq_zero_iff.mp (by omega)
    constructor
    · rw [if_pos hgroup, enclosingCoordinator_of_flat]
      intro outer hmem
      simpa using List.filter_eq_nil_iff.mp hnone outer hmem
    · rw [hnone]
      exact Nat.zero_le 1
  · rw [if_neg (by simpa using hgroup)] at hsingle
    constructor
    · rw [if_neg hgroup, h.named_eq, enclosingCoordinator_cons, XmlElement.groupCoordinator,
        if_neg hgroup, Option.none_or]
    · exact hsingle

end Followed

theorem Plain.followed {events : List XmlEvent} (h : Plain events) {before : List XmlEvent}
    (hstart : before <+: events) :
    Followed (lastCoordinator before) (openElements before) := by
  induction before using List.reverseRecOn with
  | nil => exact ⟨rfl, Nat.zero_le 1⟩
  | append_singleton before event ih =>
    have hbefore := ih ((List.prefix_append _ _).trans hstart)
    obtain ⟨after, hafter⟩ := hstart
    have hevents : events = before ++ event :: after := by simp [← hafter]
    rw [lastCoordinator_snoc, openElements_snoc]
    cases event with
    | start element =>
      simpa [XmlEvent.isGroupTag, XmlEvent.element?, XmlEvent.nesting] using
        hbefore.start (h.flat before element after hevents)
    | empty element =>
      simpa [XmlEvent.isGroupTag, XmlEvent.nesting, h.filled before element after hevents] using
        hbefore
    | endTag localName =>
      obtain ⟨element, rest, hopen, hname⟩ := h.matched before localName after hevents
      subst hname
      rw [hopen] at hbefore ⊢
      simpa [XmlEvent.isGroupTag, XmlEvent.element?, XmlEvent.nesting] using hbefore.finish
    | other => exact hbefore
    | error => exact hbefore

/-- Nothing leaks in a topology whose groups are neither self-closing nor nested. -/
theorem Plain.acceptsGroupMembers {events : List XmlEvent} (h : Plain events) :
    AcceptsGroupMembers events := by
  rw [acceptsGroupMembers_iff]
  rintro - before event after element uuid rfl - - - -
  have hfollowed := h.followed (List.prefix_append before (event :: after))
  rw [SpeaksFor, hfollowed.named_eq]
  exact ⟨Iff.rfl, fun _ => Iff.rfl⟩

end AirSonos
