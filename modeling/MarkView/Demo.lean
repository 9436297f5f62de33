/-!
# The sample document

A short text in which every styled type of node occurs.
-/

namespace MarkView

/-- The sample document. -/
def demoMarkdown : String := "# Sample Markdown
This is a basic example of Markdown.
## Second Heading
 * Unordered list:
   - Item 1
   - Item 2
   - Item 3
 * More items
> This is a blockquote.
**Bold text**, *italic text*, and combined **bold and *italic*** text. ~~Strikethrough~~ text. [Link to example](https://example.com).
### Code Example:
```js
var foo = 'bar';
function baz(s) \x7b
   return foo + ':' + s;
\x7d
```
Inline code: `var foo = 'bar';`.
The end."

end MarkView
