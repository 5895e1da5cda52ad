import ContractAudit.Value

/-!
# Prompts

The question that is put to a language model about a contract. It asks for an answer in JSON.
-/

namespace ContractAudit.Advisor

def answerFormat : String :=
  "\x7b\n"
    ++ "  \"overallRisk\": \"LOW|MEDIUM|HIGH|CRITICAL\",\n"
    ++ "  \"securityScore\": 0-100,\n"
    ++ "  \"summary\": \"Brief 2-3 sentence overview of the contract and main findings\",\n"
    ++ "  \"vulnerabilities\": [\n"
    ++ "    \x7b\n"
    ++ "      \"type\": \"vulnerability type (e.g., Reentrancy, Access Control, etc.)\",\n"
    ++ "      \"severity\": \"LOW|MEDIUM|HIGH|CRITICAL\",\n"
    ++ "      \"description\": \"Detailed description of the vulnerability\",\n"
    ++ "      \"location\": \"Function or line reference\",\n"
    ++ "      \"recommendation\": \"How to fix this issue\"\n"
    ++ "    \x7d\n"
    ++ "  ],\n"
    ++ "  \"recommendations\": [\n"
    ++ "    \"List of general recommendations for improving the contract\"\n"
    ++ "  ]\n"
    ++ "\x7d\n"

def prompt (source language : Value) : String :=
  "You are an expert smart contract security auditor. Analyze the following " ++ language.text
    ++ " smart contract for security vulnerabilities.\n\nSMART CONTRACT CODE:\n```" ++ language.text ++ "\n"
    ++ source.text
    ++ "\n```\n\nRespond ONLY with valid JSON in this exact format (no markdown, no backticks):\n\n"
    ++ answerFormat

end ContractAudit.Advisor
