import AirSonos.Lib.Xml

/-!
# SOAP requests

The addresses and titles of a request are text inside an envelope, and the title is text inside
a document that is itself text of the envelope.
-/

namespace AirSonos

open Xml

inductive SoapService
  | avTransport
  | renderingControl
  | zoneGroupTopology
deriving DecidableEq

def SoapService.urn : SoapService → String
  | avTransport => "urn:schemas-upnp-org:service:AVTransport:1"
  | renderingControl => "urn:schemas-upnp-org:service:RenderingControl:1"
  | zoneGroupTopology => "urn:schemas-upnp-org:service:ZoneGroupTopology:1"

structure SoapAction where
  service : SoapService
  action : String
deriving DecidableEq

def SoapAction.SET_AV_TRANSPORT_URI : SoapAction where
  service := .avTransport
  action := "SetAVTransportURI"

def envelope (action : SoapAction) (innerXml : List Char) : List Char :=
  "<?xml version=\"1.0\" encoding=\"utf-8\"?>\n".toList ++
  "<s:Envelope xmlns:s=".toList ++ "\"http://schemas.xmlsoap.org/soap/envelope/\"".toList ++
  " s:encodingStyle=".toList ++ "\"http://schemas.xmlsoap.org/soap/encoding/\">\n".toList ++
  "  <s:Body>\n".toList ++
  "    <u:".toList ++ action.action.toList ++ " xmlns:u=\"".toList ++
  action.service.urn.toList ++ "\">\n".toList ++
  innerXml ++ "\n".toList ++
  "    </u:".toList ++ action.action.toList ++ ">\n".toList ++
  "  </s:Body>\n".toList ++
  "</s:Envelope>".toList

/-- Every occurrence of a character is replaced. -/
def replace (c : Char) (replacement : String) (value : List Char) : List Char :=
  value.flatMap fun d => if d = c then replacement.toList else [d]

/-- One pass over the whole text for each character, the ampersand first. -/
def replaceAll (value : List Char) : List Char :=
  replace '\'' "&apos;" (replace '"' "&quot;" (replace '>' "&gt;" (replace '<' "&lt;"
    (replace '&' "&amp;" value))))

/-- A text without these characters is borrowed as it is. -/
def escapeXml (value : List Char) : List Char :=
  if value.any fun c => ['&', '<', '>', '"', '\''].contains c then replaceAll value else value

def setAvTransportUriBody (uri metadata : List Char) : List Char :=
  envelope .SET_AV_TRANSPORT_URI
    ("      <InstanceID>0</InstanceID>\n".toList ++
      "      <CurrentURI>".toList ++ escapeXml uri ++ "</CurrentURI>\n".toList ++
      "      <CurrentURIMetaData>".toList ++ escapeXml metadata ++
      "</CurrentURIMetaData>".toList)

def setAvTransportUriMetadata (title : List Char) : List Char :=
  "<DIDL-Lite xmlns:dc=".toList ++ "\"http://purl.org/dc/elements/1.1/\"".toList ++
  " xmlns:upnp=".toList ++ "\"urn:schemas-upnp-org:metadata-1-0/upnp/\"".toList ++
  " xmlns:r=".toList ++ "\"urn:schemas-rinconnetworks-com:metadata-1-0/\"".toList ++
  " xmlns=".toList ++ "\"urn:schemas-upnp-org:metadata-1-0/DIDL-Lite/\">".toList ++
  "<item id=\"airsonos2\" parentID=\"0\"".toList ++ " restricted=\"true\">".toList ++
  "<dc:title>".toList ++ escapeXml title ++ "</dc:title>".toList ++
  "<upnp:class>".toList ++ "object.item.audioItem.audioBroadcast".toList ++
  "</upnp:class></item></DIDL-Lite>".toList

/-! ### The replacements are one escape -/

theorem replace_flatMap (c : Char) (replacement : String) (f : Char → List Char)
    (value : List Char) :
    replace c replacement (value.flatMap f) = value.flatMap fun d => replace c replacement (f d) :=
  List.flatMap_assoc ..

/-- The ampersand comes first, so no later pass meets an ampersand of an earlier one. -/
theorem replaceAll_eq (value : List Char) : replaceAll value = escape value := by
  unfold replaceAll escape
  rw [replace.eq_1 '&', replace_flatMap, replace_flatMap, replace_flatMap, replace_flatMap]
  congr 1
  funext c
  rcases lookup_entities c with (rfl | rfl | rfl | rfl | rfl) | hplain
  · decide
  · decide
  · decide
  · decide
  · decide
  · have hne (d : Char) (name : List Char) (hmem : (d, name) ∈ entities) : c ≠ d := by
      rintro rfl
      rw [List.lookup_eq_none_iff] at hplain
      exact bne_iff_ne.mp (hplain _ hmem) rfl
    rw [escapeChar_of_none hplain]
    simp only [replace, hne '&' _ (.head _), hne '<' _ (.tail _ (.head _)),
      hne '>' _ (.tail _ (.tail _ (.head _))), hne '"' _ (.tail _ (.tail _ (.tail _ (.head _)))),
      hne '\'' _ (.tail _ (.tail _ (.tail _ (.tail _ (.head _))))), if_false,
      List.flatMap_cons, List.flatMap_nil, List.append_nil]

theorem escapeXml_eq (value : List Char) : escapeXml value = escape value := by
  unfold escapeXml
  split
  · exact replaceAll_eq value
  · next hnone =>
    refine (escape_of_plain fun c hc => ?_).symm
    rcases lookup_entities c with hspecial | hplain
    · refine absurd (List.any_eq_true.mpr ⟨c, hc, ?_⟩) hnone
      rcases hspecial with rfl | rfl | rfl | rfl | rfl <;> decide
    · exact hplain

/-! ### What a reader finds -/

def envelopeAttributes : List Char :=
  " xmlns:s=".toList ++ "\"http://schemas.xmlsoap.org/soap/envelope/\"".toList ++
  " s:encodingStyle=".toList ++ "\"http://schemas.xmlsoap.org/soap/encoding/\"".toList

def actionAttributes : List Char :=
  " xmlns:u=\"".toList ++ "urn:schemas-upnp-org:service:AVTransport:1\"".toList

def didlAttributes : List Char :=
  " xmlns:dc=".toList ++ "\"http://purl.org/dc/elements/1.1/\"".toList ++
  " xmlns:upnp=".toList ++ "\"urn:schemas-upnp-org:metadata-1-0/upnp/\"".toList ++
  " xmlns:r=".toList ++ "\"urn:schemas-rinconnetworks-com:metadata-1-0/\"".toList ++
  " xmlns=".toList ++ "\"urn:schemas-upnp-org:metadata-1-0/DIDL-Lite/\"".toList

def itemAttributes : List Char :=
  " id=\"airsonos2\" parentID=\"0\"".toList ++ " restricted=\"true\"".toList

/-- The DIDL document around the text of a title. -/
def didlDocument (title : List Char) : List Node :=
  [.text [], .element "DIDL-Lite".toList didlAttributes
    [.text [], .element "item".toList itemAttributes
      [.text [], .element "dc:title".toList [] [.text title], .text [],
        .element "upnp:class".toList [] [.text "object.item.audioItem.audioBroadcast".toList],
        .text []], .text []], .text []]

/-- The envelope around the texts of an address and of its metadata. -/
def requestDocument (uri metadata : List Char) : List Node :=
  [.text [], .text "\n".toList, .element "s:Envelope".toList envelopeAttributes
    [.text "\n  ".toList, .element "s:Body".toList []
      [.text "\n    ".toList, .element "u:SetAVTransportURI".toList actionAttributes
        [.text "\n      ".toList, .element "InstanceID".toList [] [.text "0".toList],
          .text "\n      ".toList, .element "CurrentURI".toList [] [.text uri],
          .text "\n      ".toList, .element "CurrentURIMetaData".toList [] [.text metadata],
          .text "\n    ".toList], .text "\n  ".toList], .text "\n".toList], .text []]

/-! The markup before, between and behind the escaped pieces, without the brackets that end
them. -/

def didlFront : List Char :=
  "<DIDL-Lite xmlns:dc=".toList ++ "\"http://purl.org/dc/elements/1.1/\"".toList ++
  " xmlns:upnp=".toList ++ "\"urn:schemas-upnp-org:metadata-1-0/upnp/\"".toList ++
  " xmlns:r=".toList ++ "\"urn:schemas-rinconnetworks-com:metadata-1-0/\"".toList ++
  " xmlns=".toList ++ "\"urn:schemas-upnp-org:metadata-1-0/DIDL-Lite/\">".toList ++
  "<item id=\"airsonos2\" parentID=\"0\"".toList ++ " restricted=\"true\">".toList ++
  "<dc:title>".toList

def didlBack : List Char :=
  "/dc:title>".toList ++ "<upnp:class>".toList ++
  "object.item.audioItem.audioBroadcast".toList ++ "</upnp:class></item></DIDL-Lite>".toList

def requestFront : List Char :=
  "<?xml version=\"1.0\" encoding=\"utf-8\"?>\n".toList ++
  "<s:Envelope xmlns:s=".toList ++ "\"http://schemas.xmlsoap.org/soap/envelope/\"".toList ++
  " s:encodingStyle=".toList ++ "\"http://schemas.xmlsoap.org/soap/encoding/\">\n".toList ++
  "  <s:Body>\n".toList ++
  "    <u:".toList ++ "SetAVTransportURI".toList ++ " xmlns:u=\"".toList ++
  "urn:schemas-upnp-org:service:AVTransport:1".toList ++ "\">\n".toList ++
  "      <InstanceID>0</InstanceID>\n".toList ++ "      <CurrentURI>".toList

def requestMiddle : List Char :=
  "/CurrentURI>\n".toList ++ "      <CurrentURIMetaData>".toList

def requestBack : List Char :=
  "/CurrentURIMetaData>".toList ++ "\n".toList ++ "    </u:".toList ++
  "SetAVTransportURI".toList ++ ">\n".toList ++ "  </s:Body>\n".toList ++
  "</s:Envelope>".toList

theorem setAvTransportUriMetadata_eq (title : List Char) :
    setAvTransportUriMetadata title = didlFront ++ (escape title ++ '<' :: didlBack) := by
  have htitle : "</dc:title>".toList = '<' :: "/dc:title>".toList := by decide
  unfold setAvTransportUriMetadata didlFront didlBack
  rw [escapeXml_eq, htitle]
  simp only [-String.reduceToList, List.append_assoc]
  rw [List.cons_append]

theorem setAvTransportUriBody_eq (uri metadata : List Char) :
    setAvTransportUriBody uri metadata = requestFront ++ (escape uri ++ '<' ::
      (requestMiddle ++ (escape metadata ++ '<' :: requestBack))) := by
  have huri : "</CurrentURI>\n".toList = '<' :: "/CurrentURI>\n".toList := by decide
  have hmetadata : "</CurrentURIMetaData>".toList = '<' :: "/CurrentURIMetaData>".toList := by
    decide
  unfold setAvTransportUriBody envelope requestFront requestMiddle requestBack
  rw [escapeXml_eq, escapeXml_eq, huri, hmetadata]
  simp only [-String.reduceToList, List.append_assoc]
  rw [List.cons_append, List.cons_append]
  rfl

theorem lex_didlFront : lex (.text []) didlFront =
    some ([.text [], .start "DIDL-Lite".toList didlAttributes, .text [],
      .start "item".toList itemAttributes, .text [], .start "dc:title".toList []], .text []) := by
  decide +kernel

theorem lex_didlBack : lex (.tag [] none) didlBack =
    some ([.finish "dc:title".toList, .text [], .start "upnp:class".toList [],
      .text "object.item.audioItem.audioBroadcast".toList, .finish "upnp:class".toList, .text [],
      .finish "item".toList, .text [], .finish "DIDL-Lite".toList], .text []) := by
  decide +kernel

theorem lex_requestFront : lex (.text []) requestFront =
    some ([.text [], .instruction "?xml version=\"1.0\" encoding=\"utf-8\"?".toList,
      .text "\n".toList, .start "s:Envelope".toList envelopeAttributes, .text "\n  ".toList,
      .start "s:Body".toList [], .text "\n    ".toList,
      .start "u:SetAVTransportURI".toList actionAttributes, .text "\n      ".toList,
      .start "InstanceID".toList [], .text "0".toList, .finish "InstanceID".toList,
      .text "\n      ".toList, .start "CurrentURI".toList []], .text []) := by
  decide +kernel

theorem lex_requestMiddle : lex (.tag [] none) requestMiddle =
    some ([.finish "CurrentURI".toList, .text "\n      ".toList,
      .start "CurrentURIMetaData".toList []], .text []) := by
  decide +kernel

theorem lex_requestBack : lex (.tag [] none) requestBack =
    some ([.finish "CurrentURIMetaData".toList, .text "\n    ".toList,
      .finish "u:SetAVTransportURI".toList, .text "\n  ".toList, .finish "s:Body".toList,
      .text "\n".toList, .finish "s:Envelope".toList], .text []) := by
  decide +kernel

theorem read_metadata (title : List Char) :
    Xml.read (setAvTransportUriMetadata title) = some (didlDocument (escape title)) := by
  rw [setAvTransportUriMetadata_eq, Xml.read,
    lex_around (not_mem_escape title) lex_didlFront lex_didlBack]
  rfl

theorem read_body (uri metadata : List Char) :
    Xml.read (setAvTransportUriBody uri metadata) =
      some (requestDocument (escape uri) (escape metadata)) := by
  rw [setAvTransportUriBody_eq, Xml.read, lex_around (not_mem_escape uri) lex_requestFront
    (lex_around (not_mem_escape metadata) lex_requestMiddle lex_requestBack)]
  rfl

/-- The elements of every request that sets a transport address. -/
def requestSkeleton : List Node :=
  [.element "s:Envelope".toList envelopeAttributes [.element "s:Body".toList []
    [.element "u:SetAVTransportURI".toList actionAttributes
      [.element "InstanceID".toList [] [], .element "CurrentURI".toList [] [],
        .element "CurrentURIMetaData".toList [] []]]]]

def didlSkeleton : List Node :=
  [.element "DIDL-Lite".toList didlAttributes [.element "item".toList itemAttributes
    [.element "dc:title".toList [] [], .element "upnp:class".toList [] []]]]

/-- The path to an argument of the request. -/
def argumentPath (argument : String) : List (List Char) :=
  ["s:Envelope".toList, "s:Body".toList, "u:SetAVTransportURI".toList, argument.toList]

def titlePath : List (List Char) :=
  ["DIDL-Lite".toList, "item".toList, "dc:title".toList]

theorem textAt_uri (uri metadata : List Char) :
    textAt (argumentPath "CurrentURI") (requestDocument uri metadata) = some uri := by
  have hfound : textAt (argumentPath "CurrentURI") (requestDocument uri metadata) =
      some (uri ++ []) := rfl
  rw [hfound, List.append_nil]

theorem textAt_metadata (uri metadata : List Char) :
    textAt (argumentPath "CurrentURIMetaData") (requestDocument uri metadata) =
      some metadata := by
  have hfound : textAt (argumentPath "CurrentURIMetaData") (requestDocument uri metadata) =
      some (metadata ++ []) := rfl
  rw [hfound, List.append_nil]

theorem textAt_title (title : List Char) :
    textAt titlePath (didlDocument title) = some title := by
  have hfound : textAt titlePath (didlDocument title) = some (title ++ []) := rfl
  rw [hfound, List.append_nil]

/-- Whatever the address and the title are, the request has the same elements, its arguments
decode to the address and to the metadata document, and the title in there to the title. -/
theorem arguments_survive (uri title : List Char) :
    (∃ request, Xml.read (setAvTransportUriBody uri (setAvTransportUriMetadata title)) =
        some request ∧ skeleton request = requestSkeleton ∧
      (textAt (argumentPath "CurrentURI") request).bind decode = some uri ∧
      (textAt (argumentPath "CurrentURIMetaData") request).bind decode =
        some (setAvTransportUriMetadata title)) ∧
    (∃ didl, Xml.read (setAvTransportUriMetadata title) = some didl ∧
      skeleton didl = didlSkeleton ∧ (textAt titlePath didl).bind decode = some title) ∧
    ∀ value, escapeXml value = replaceAll value := by
  refine ⟨?_, ?_, fun value => (escapeXml_eq value).trans (replaceAll_eq value).symm⟩
  · refine ⟨_, read_body uri (setAvTransportUriMetadata title), rfl, ?_, ?_⟩
    · rw [textAt_uri, Option.bind_some, decode_escape]
    · rw [textAt_metadata, Option.bind_some, decode_escape]
  · refine ⟨_, read_metadata title, rfl, ?_⟩
    rw [textAt_title, Option.bind_some, decode_escape]

end AirSonos
