import MiniGrc.App.FrameworkRequirements

/-!
# The system catalogs

`SYSTEM_CATALOGS` of `app/framework_catalog.py`, with what its reconciliation relies on: no two
catalogs share a key or a family, and no two requirements of a catalog a reference code.
-/

namespace MiniGrc.ConcurrentCatalogs

/-- `CatalogRequirement`. -/
abbrev CatalogRequirement := FrameworkRequirements.NewRequirement

/-- `SystemCatalog`. -/
structure SystemCatalog extends FrameworkRequirements.SystemCatalog where
  version : String
  description : String
  isPrimary : Bool

/-- A tuple of catalogs. -/
structure Catalogs where
  list : List SystemCatalog
  keys : (list.map fun c => c.catalogKey).Nodup
  families : (list.map fun c => c.catalogFamily).Nodup
  codes : ∀ c ∈ list, (c.requirements.map fun r => r.referenceCode).Nodup

/-- The catalog `iso27001-2022-sample`. -/
def iso27001 : SystemCatalog where
  catalogKey := "iso27001-2022-sample"
  catalogFamily := "iso27001"
  name := "ISO/IEC 27001:2022 Annex A (sample catalogue)"
  version := "2022"
  description :=
    "Placeholder catalogue for local development and demos. Reference codes follow the " ++
    "public Annex A theme numbering, but titles and summaries below are paraphrased " ++
    "placeholders written for this repository — not the licensed normative text of the " ++
    "standard. Replace with your organization's own licensed copy before relying on this " ++
    "for a real audit."
  isPrimary := false
  requirements := [
    { referenceCode := "A.5.1"
      title := "Policies for information security"
      summary :=
        "Top-level direction and topic-specific policies exist, are approved, and " ++
        "communicated."
      displayOrder := 0 },
    { referenceCode := "A.5.9"
      title := "Inventory of information and assets"
      summary :=
        "Assets associated with information and information processing are identified and " ++
        "inventoried."
      displayOrder := 1 },
    { referenceCode := "A.8.1"
      title := "User endpoint devices"
      summary :=
        "Information stored on, processed by, or accessible via endpoint devices is " ++
        "protected."
      displayOrder := 2 },
    { referenceCode := "A.8.8"
      title := "Management of technical vulnerabilities"
      summary :=
        "Information about technical vulnerabilities is obtained and exposure is evaluated."
      displayOrder := 3 },
    { referenceCode := "A.5.30"
      title := "ICT readiness for business continuity"
      summary :=
        "ICT readiness is planned, implemented, maintained, and tested against continuity " ++
        "objectives."
      displayOrder := 4 }]

/-- The catalog `soc2-2017-sample`. -/
def soc2 : SystemCatalog where
  catalogKey := "soc2-2017-sample"
  catalogFamily := "soc2"
  name := "SOC 2 Trust Services Criteria — Security (sample catalogue)"
  version := "2017 (2022 revised points of focus)"
  description :=
    "Placeholder catalogue for local development and demos, covering only the mandatory " ++
    "Security category's nine Common Criteria (CC) series with one representative reference " ++
    "code per series — not a full catalogue. Titles and summaries are paraphrased " ++
    "placeholders written for this repository, not the licensed AICPA Trust Services " ++
    "Criteria text. The four optional categories (Availability, Processing Integrity, " ++
    "Confidentiality, Privacy) are not seeded; add them via CSV import or the requirement " ++
    "form once your organization scopes them in. Replace with your own licensed copy before " ++
    "relying on this for a real audit."
  isPrimary := true
  requirements := [
    { referenceCode := "CC1.1"
      title := "Control environment: commitment to integrity and ethical values"
      summary :=
        "Leadership sets and models expected standards of conduct, and violations are " ++
        "addressed consistently."
      displayOrder := 0 },
    { referenceCode := "CC2.1"
      title := "Communication and information: internal communication"
      summary :=
        "Operational and control-relevant information reaches the people who need it to " ++
        "carry out their responsibilities."
      displayOrder := 1 },
    { referenceCode := "CC3.1"
      title := "Risk assessment: objectives"
      summary :=
        "Business objectives are documented clearly enough that risks threatening them can " ++
        "be identified and evaluated."
      displayOrder := 2 },
    { referenceCode := "CC4.1"
      title := "Monitoring activities: ongoing and separate evaluations"
      summary :=
        "Controls are periodically checked to confirm they are actually operating, not just " ++
        "assumed to be."
      displayOrder := 3 },
    { referenceCode := "CC5.1"
      title := "Control activities: mitigating risk"
      summary :=
        "Specific activities are put in place to bring identified risks down to an " ++
        "acceptable level."
      displayOrder := 4 },
    { referenceCode := "CC6.1"
      title := "Logical and physical access controls: restricting access"
      summary :=
        "Access to systems and data is restricted through technical controls so only " ++
        "authorized users can get in."
      displayOrder := 5 },
    { referenceCode := "CC7.1"
      title := "System operations: detecting and monitoring anomalies"
      summary :=
        "System activity is monitored to catch unusual behavior that could signal an error " ++
        "or a malicious act."
      displayOrder := 6 },
    { referenceCode := "CC8.1"
      title := "Change management: authorizing changes"
      summary :=
        "Changes to infrastructure and software go through approval and review before " ++
        "release."
      displayOrder := 7 },
    { referenceCode := "CC9.1"
      title := "Risk mitigation: identifying and managing business disruption"
      summary :=
        "Risks that could significantly disrupt the business are identified and actively " ++
        "managed, not merely noted."
      displayOrder := 8 }]

/-- `SYSTEM_CATALOGS`. -/
def systemCatalogs : Catalogs where
  list := [iso27001, soc2]
  keys := by decide
  families := by decide
  codes := by decide

end MiniGrc.ConcurrentCatalogs
