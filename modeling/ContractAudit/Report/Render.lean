import ContractAudit.Json.Writer
import ContractAudit.Report.Format
import ContractAudit.Report.Html
import ContractAudit.Report.Markdown

/-!
# Rendered reports
-/

namespace ContractAudit.Report

def renderJson (report : Report) : String := Json.write .indented report.toValue

/-- The report as JSON for hashing and signing: equal reports have equal texts. -/
def canonicalJson (report : Report) : String := Json.write .compact report.toValue

def render (report : Report) : ReportFormat → Except RenderError String
  | .json => .ok report.renderJson
  | .markdown => Markdown.render report
  | .html => Html.render report

end ContractAudit.Report
