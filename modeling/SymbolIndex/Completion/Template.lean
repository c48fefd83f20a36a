import SymbolIndex.Dictionary

/-! Templates: keywords that complete to a skeleton of several lines. -/
namespace SymbolIndex.Completion

/-- Keyword and expansion of the templates offered unless a configuration replaces them. -/
def defaultTemplates : Dictionary Text :=
  .ofList <|
  [("main", "if __name__ == \"__main__\":\n    "),
   ("try", "try:\n    \nexcept Exception as e:\n    "),
   ("for", "for i in range(10):\n    "),
   ("while", "while True:\n    "),
   ("if", "if condition:\n    "),
   ("elif", "elif condition:\n    "),
   ("else", "else:\n    "),
   ("class", "class ClassName:\n    def __init__(self):\n        "),
   ("def", "def function_name(parameters):\n    "),
   ("return", "return "),
   ("import", "import "),
   ("from", "from module import ")].map
    fun (keyword, expansion) => (String.toList keyword, String.toList expansion)

end SymbolIndex.Completion
