import Mathlib.Data.List.Basic

/-!
# The zone group state

A topology arrives as XML. The reader's events are the input here: it balances the end tags it
reports, but says nothing of elements that are still open at the end of the text.
-/

namespace AirSonos

/-- An element with its attributes, decoded where decoding succeeds and raw elsewhere. -/
structure XmlElement where
  localName : String
  attributes : List (String × String)
deriving DecidableEq

inductive XmlEvent
  | start (element : XmlElement)
  | empty (element : XmlElement)
  | endTag (localName : String)
  | other
  | error
deriving DecidableEq

structure ZoneGroupMember where
  uuid : String
  zoneName : String
  location : Option String
  isVisibleRoom : Bool
  isGroupCoordinator : Bool
deriving DecidableEq

def attr (element : XmlElement) (key : String) : Option String :=
  (element.attributes.find? fun pair => pair.1 = key).map Prod.snd

namespace XmlElement

def isSatellite (element : XmlElement) : Bool :=
  element.localName = "Satellite"

def isInvisible (element : XmlElement) : Bool :=
  attr element "Invisible" = some "1"

end XmlElement

/-- The member that an element inside a group adds. -/
def zoneGroupMember (coordinator : String) (element : XmlElement) : Option ZoneGroupMember :=
  match (attr element "UUID").filter (· ≠ "") with
  | none => none
  | some uuid =>
    some
      { uuid
        zoneName := (attr element "ZoneName").getD ""
        location := attr element "Location"
        isVisibleRoom := !element.isSatellite && !element.isInvisible
        isGroupCoordinator := !element.isSatellite && decide (coordinator = uuid) }

structure TopologyReader where
  members : List ZoneGroupMember := []
  coordinator : Option String := none
  openElements : Nat := 0

namespace TopologyReader

def element (reader : TopologyReader) (element : XmlElement) : TopologyReader :=
  if element.localName = "ZoneGroup" then
    { reader with coordinator := attr element "Coordinator" }
  else if element.localName = "ZoneGroupMember" ∨ element.localName = "Satellite" then
    match reader.coordinator with
    | none => reader
    | some coordinator =>
      { reader with members := reader.members ++ (zoneGroupMember coordinator element).toList }
  else reader

def endTag (reader : TopologyReader) (localName : String) : TopologyReader :=
  { reader with
    openElements := reader.openElements - 1
    coordinator := if localName = "ZoneGroup" then none else reader.coordinator }

/-- A truncated or malformed topology has no members. -/
def read (reader : TopologyReader) : List XmlEvent → List ZoneGroupMember
  | [] => if reader.openElements = 0 then reader.members else []
  | .start element :: events =>
    ({ reader with openElements := reader.openElements + 1 }.element element).read events
  | .empty element :: events => (reader.element element).read events
  | .endTag localName :: events => (reader.endTag localName).read events
  | .other :: events => reader.read events
  | .error :: _ => []

end TopologyReader

def parseZoneGroupState (events : List XmlEvent) : List ZoneGroupMember :=
  TopologyReader.read {} events

/-- The elements of a document, in the order of their tags. -/
def xmlElements (events : List XmlEvent) : List XmlElement :=
  events.filterMap fun
    | .start element => some element
    | .empty element => some element
    | _ => none

/-- The element that makes a member a visible room. -/
def XmlElement.IsRoom (element : XmlElement) (uuid : String) : Prop :=
  element.localName = "ZoneGroupMember" ∧ element.isInvisible = false ∧
    attr element "UUID" = some uuid

theorem isRoom_of_member {coordinator : String} {element : XmlElement} {member : ZoneGroupMember}
    (tag : element.localName = "ZoneGroupMember" ∨ element.localName = "Satellite")
    (h : zoneGroupMember coordinator element = some member) (visible : member.isVisibleRoom = true) :
    element.IsRoom member.uuid := by
  unfold zoneGroupMember at h
  split at h
  · cases h
  · next uuid huuid =>
    cases h
    simp only [Bool.and_eq_true, Bool.not_eq_true'] at visible
    obtain ⟨hsatellite, hinvisible⟩ := visible
    refine ⟨?_, hinvisible, (Option.filter_eq_some_iff.mp huuid).1⟩
    obtain hmember | hother := tag
    · exact hmember
    · simp [XmlElement.isSatellite, hother] at hsatellite

namespace TopologyReader

/-- Every visible member comes from the element of a room. -/
def Sourced (elements : List XmlElement) (reader : TopologyReader) : Prop :=
  ∀ member ∈ reader.members, member.isVisibleRoom = true →
    ∃ element ∈ elements, element.IsRoom member.uuid

theorem Sourced.element {elements : List XmlElement} {reader : TopologyReader}
    (h : reader.Sourced elements) {element : XmlElement} (found : element ∈ elements) :
    (reader.element element).Sourced elements := by
  unfold TopologyReader.element
  split
  · exact h
  split
  · next tag =>
    split
    · exact h
    · next coordinator _ =>
      intro member hmember visible
      obtain hold | hnew := List.mem_append.mp hmember
      · exact h member hold visible
      · exact ⟨element, found, isRoom_of_member tag (Option.mem_toList.mp hnew) visible⟩
  · exact h

theorem Sourced.read {elements : List XmlElement} {events : List XmlEvent}
    {reader : TopologyReader} (h : reader.Sourced elements)
    (sub : ∀ element ∈ xmlElements events, element ∈ elements) {member : ZoneGroupMember}
    (hmember : member ∈ reader.read events) (visible : member.isVisibleRoom = true) :
    ∃ element ∈ elements, element.IsRoom member.uuid := by
  induction events generalizing reader with
  | nil =>
    unfold TopologyReader.read at hmember
    split at hmember
    · exact h member hmember visible
    · cases hmember
  | cons event events ih =>
    cases event with
    | start element =>
      have hfound := sub element (List.mem_cons_self)
      refine ih (Sourced.element ?_ hfound) (fun e he => sub e (List.mem_cons_of_mem _ he)) hmember
      exact h
    | empty element =>
      have hfound := sub element (List.mem_cons_self)
      exact ih (h.element hfound) (fun e he => sub e (List.mem_cons_of_mem _ he)) hmember
    | endTag localName =>
      refine ih ?_ sub hmember
      exact h
    | other => exact ih h sub hmember
    | error => cases hmember

end TopologyReader

theorem isRoom_of_parse {events : List XmlEvent} {member : ZoneGroupMember}
    (h : member ∈ parseZoneGroupState events) (visible : member.isVisibleRoom = true) :
    ∃ element ∈ xmlElements events, element.IsRoom member.uuid := by
  have hstart : TopologyReader.Sourced (xmlElements events) {} := by
    intro member hmember
    cases hmember
  exact hstart.read (fun _ he => he) h visible

end AirSonos
