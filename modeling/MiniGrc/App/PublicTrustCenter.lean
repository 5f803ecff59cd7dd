import MiniGrc.App.TrustCenter

/-!
# The page of the public trust center

`public_trust_center` of `app/routers/trust_center_public.py`, with what its template shows. The
page is made from the same look-up of sections as the downloads. The HTML that the markdown
library and the sanitizer make of a text is a parameter.
-/

namespace MiniGrc.TrustCenter

open Events

/-- `render_markdown_safe`; `toHtml` is what the libraries make of a text that is not empty. -/
def renderMarkdownSafe (toHtml : String → Nat → String) (text : Option String)
    (headingOffset : Nat) : String :=
  match text with
  | none => ""
  | some text => if text = "" then "" else toHtml text headingOffset

/-- The policy of a link to its download. -/
structure LinkedPolicy where
  id : Id
  title : String
  deriving DecidableEq, Repr

/-- An entry of `rendered_sections`. -/
structure RenderedSection where
  id : Id
  title : String
  html : String
  reviewDate : Option Date
  expiryDate : Option Date
  linkedPolicy : Option LinkedPolicy
  deriving DecidableEq, Repr

/-- What `trust_center/public.html` shows. -/
structure PublicPage where
  title : String
  introHtml : String
  contactEmail : String
  supportUrl : String
  sections : List RenderedSection
  deriving DecidableEq, Repr

variable (toHtml : String → Nat → String) (s : State)

/-- The link of a section: its policy has to be there, and to be approved. -/
def linkedPolicy (row : TrustCenterSection) : Option LinkedPolicy :=
  match row.linkedPolicyId with
  | none => none
  | some policyId =>
    match s.policies[policyId]? with
    | none => none
    | some policy => if policy.status = .approved then some ⟨policyId, policy.title⟩ else none

/-- The entry of a section; the draft is not in it. -/
def renderedSection (entry : Id × TrustCenterSection) : RenderedSection where
  id := entry.1
  title := entry.2.title
  html := renderMarkdownSafe toHtml entry.2.publishedBodyMarkdown 2
  reviewDate := entry.2.reviewDate
  expiryDate := entry.2.expiryDate
  linkedPolicy := linkedPolicy s entry.2

/-- `public_trust_center`; `none` is the answer 404. -/
def publicTrustCenter : Option PublicPage :=
  let settings := getOrCreateSettings s
  if settings.enabled = false then none
  else some {
    title := settings.title
    introHtml := renderMarkdownSafe toHtml (some settings.introMarkdown) 1
    contactEmail := settings.contactEmail
    supportUrl := settings.supportUrl
    sections := (publicPublishedSections s).map (renderedSection toHtml s) }

end MiniGrc.TrustCenter
