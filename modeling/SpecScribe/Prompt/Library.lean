import SpecScribe.Prompt.Template

/-!
The requests that are sent to a language model.
-/

namespace SpecScribe.Prompt

open Piece Template

def analysisTemplate : Template :=
  [block
    ["あなたは熟練したソフトウェアアーキテクトです。",
     "以下のコードを分析し、機能と責務を特定してください。", "", "## ファイル: "],
   hole "file_path",
   block ["", "## 言語: "],
   hole "language",
   block ["", "", "## AST情報:", ""],
   hole "ast_info",
   block ["", "", "## コード内容:", "```"],
   hole "language",
   block ["", ""],
   hole "code_content",
   block
    ["", "```", "", "## 重要な指示:",
     "- 同じクラスのメソッドは必ず同じクラス名で関連付けてください",
     "- \"不明\" や \"推測\" ではなく、実際のクラス名を使用してください",
     "- メソッドとクラスの関係を明確に示してください",
     "- クラスが存在する場合は、そのクラス内のメソッドをすべて \"methods\" 配列に含めてください",
     "", "## 分析項目:", "1. 主要機能（各関数・クラスの役割）", "2. データフロー",
     "3. 外部依存関係", "4. ビジネスロジック", "5. エラーハンドリング方式", "",
     "## 出力形式:", "JSON形式で構造化して出力してください:", "```json", "\x7b",
     "  \"overview\": \"ファイル全体の概要\",",
     "  \"main_purpose\": \"このファイルの主な目的\",",
     "  \"functions\": [", "    \x7b",
     "      \"name\": \"関数名\",",
     "      \"purpose\": \"役割\",",
     "      \"inputs\": [\"入力パラメータ\"],",
     "      \"outputs\": \"戻り値\",",
     "      \"business_logic\": \"ビジネスロジック\",",
     "      \"complexity\": \"複雑度（low/medium/high）\",",
     "      \"parent_class\": \"所属するクラス名（クラスメソッドの場合）\"",
     "    \x7d", "  ],", "  \"classes\": [", "    \x7b",
     "      \"name\": \"実際のクラス名（30文字以内）\",",
     "      \"purpose\": \"役割（50文字以内、簡潔に）\",",
     "      \"methods\": [\"メソッド名のリスト（最大10個まで）\"],",
     "      \"attributes\": [\"属性名のリスト（最大10個まで）\"],",
     "      \"design_pattern\": \"使用されているデザインパターン\",",
     "      \"method_details\": [", "        \x7b",
     "          \"name\": \"メソッド名\",",
     "          \"purpose\": \"メソッドの役割（簡潔に）\",",
     "          \"complexity\": \"複雑度（low/medium/high）\"",
     "        \x7d", "      ]", "    \x7d", "  ],",
     "  \"dependencies\": [", "    \x7b",
     "      \"name\": \"依存関係名\",",
     "      \"type\": \"internal/external\",",
     "      \"usage\": \"使用目的\"", "    \x7d", "  ],",
     "  \"data_flow\": \"データの流れの説明\",",
     "  \"error_handling\": \"エラーハンドリング方式\",",
     "  \"performance_considerations\": \"パフォーマンスに関する考慮事項\",",
     "  \"security_considerations\": \"セキュリティに関する考慮事項\"",
     "\x7d", "```", "",
     "分析は技術的に正確で、日本のIT業界の標準的な表現を使用してください。"]]

def specificationTemplate : Template :=
  [block
    ["あなたは日本のIT業界で活躍する技術文書作成のエキスパートです。",
     "以下の分析結果を基に、簡潔で実用的な詳細設計書を作成してください。", "",
     "## プロジェクト概要:", ""],
   hole "project_overview",
   block ["", "", "## 技術要件:", ""],
   hole "technical_requirements",
   block ["", "", "## コード分析結果:", ""],
   hole "analysis_results",
   block ["", "", "## 作成する文書:", ""],
   hole "document_title",
   block
    ["", "", "## 出力形式:",
     "以下の6つのセクションに従って、詳細設計書をMarkdown形式で作成してください：", "", "# "],
   hole "document_title",
   block
    ["", "", "## 1. 概要", "", "- システム概要", "- 対象範囲（ファイル）",
     "- 前提条件・制約事項（もし必要な場合）", "", "## 2. アーキテクチャ設計", "",
     "- システム構成図（Mermaid classDiagramで作成）", "- 処理フロー概要",
     "- 主要コンポーネント間の関係",
     "- 関連するファイルや処理・呼び出されるメソッド・呼び出し元のメソッド", "",
     "## 3. クラス・メソッド設計", "", "### 3.1 クラス・メソッド一覧表", "",
     "**CRITICAL TABLE FORMATTING RULES:**",
     "1. Each table cell MUST be under 80 characters",
     "2. Method lists MUST show maximum 5 methods followed by \"...\" if more exist",
     "3. Use format: \"method1, method2, method3...\" ",
     "4. Class names should be concise identifiers only",
     "5. Role descriptions should be one clear sentence",
     "", "**EXAMPLE GOOD TABLE:**",
     "| Calculator | 数値計算機能と履歴管理 | add, subtract, multiply... | パターン: なし |",
     "| FileHandler | ファイル操作の統一インターフェース | read, write, delete | パターン: Facade |",
     "", "**EXAMPLE BAD TABLE (NEVER DO THIS):**",
     "| Calculator | 数値計算機能と計算履歴管理機能を提供する... | add, subtract, multiply, divide, " ++
      "get_history, clear_history, save_to_file, load_from_file, export_to_csv, import_from_csv... | パターン: なし |",
     "", "| クラス名 | 役割 | 主要メソッド | 備考 |",
     "| -------- | ---- | ------------ | ---- |", "",
     "### 3.2 クラス・メソッド詳細仕様", "", "各クラス・メソッドについて以下を記載：", "",
     "- クラス概要", "- 属性一覧（型、初期値、説明）",
     "- メソッド仕様（引数、戻り値、処理概要、例外）", "- 継承・実装関係", "",
     "## 4. インターフェース設計", "", "- API 仕様", "- 入出力データ形式",
     "- エラーレスポンス仕様", "", "## 5. データ設計", "", "- データ構造",
     "- データベーステーブル設計（該当する場合）",
     "- データフロー図（Mermaid flowchartで作成）", "", "## 6. 処理設計",
     "", "### 6.1 主要処理フロー", "",
     "- シーケンス図での表現（Mermaid sequenceDiagramで作成）",
     "- 処理ステップの詳細説明", "", "## 【重要な注意事項】:",
     "1. 日本語で記述してください", "2. 図表は Mermaid 記法で作成してください",
     "3. 実装の詳細まで踏み込んで説明してください", "4. 保守性・拡張性の観点も含めてください",
     "5. クラス図は Mermaid classDiagram で作成",
     "6. シーケンス図は Mermaid sequenceDiagram で作成",
     "7. フローチャートは Mermaid flowchart で作成",
     "8. 必要に応じて ER 図も含める", "9. 簡潔で実用的な内容にし、冗長な記述は避ける",
     "10. 各セクションは必須項目のみに絞り込む", "", "それでは、詳細設計書を作成してください。"]]

def systemOverviewTemplate : Template :=
  [text "このシステムは",
   hole "module_count",
   block ["個のモジュールで構成され、", ""],
   hole "function_count",
   text "個の関数と",
   hole "class_count",
   block ["個のクラスを含んでいます。", "各モジュールは明確な責務を持ち、適切に分離された設計となっています。"]]

def classStructureTemplate : Template :=
  [block
    ["あなたは日本のITエンジニアです。以下のクラス構造を分析し、正確なクラス情報を提供してください。", "",
     "## クラス名: "],
   hole "class_name",
   block ["", "## メソッド一覧: "],
   hole "class_methods",
   block ["", "", "## クラス内容:", "```python", ""],
   hole "class_content",
   block ["", "```", "", "## 重要な指示:", "- このクラスのすべてのメソッドは「"],
   hole "class_name",
   block
    ["」クラスに所属するものとして記録してください", "- メソッドの親クラスを明確に示してください",
     "- 「不明」や「推測」という表現は使用しないでください", "", "## 出力形式:",
     "以下のJSON形式で回答してください:", "\x7b", "  \"class_name\": \""],
   hole "class_name",
   block
    ["\",", "  \"purpose\": \"クラスの役割説明\",",
     "  \"methods\": [", "    \x7b",
     "      \"name\": \"メソッド名\",",
     "      \"purpose\": \"メソッドの役割\",",
     "      \"parent_class\": \""],
   hole "class_name",
   block
    ["\"", "    \x7d", "  ],",
     "  \"complexity\": \"複雑度（low/medium/high）\"", "\x7d",
     ""]]

end SpecScribe.Prompt
