import SceneBoard.Component

/-! # Scene templates

What a scene of a component holds between its tags. A few components, known by name, have a sample
content of their own; any other is shown by its bare tag, with an empty style if it takes one.
-/

namespace SceneBoard

/-- What goes between the tags of a scene. -/
inductive Template where
  /-- A description of the routes in place of the whole application. -/
  | app
  | pageLayout
  | tag
  | button
  | caseStudyDetail
  | playground
  /-- The tag of a component with an empty style. -/
  | styled (name : String)
  /-- The tag of a component. -/
  | bare (name : String)
  /-- A text that was read from a storyboard. -/
  | verbatim (body : String)
  deriving DecidableEq

namespace Template

/-- The template of a component. -/
def ofComponent (c : Component) : Template :=
  if c.name = "App" then .app
  else if c.name = "PageLayout" then .pageLayout
  else if c.name = "Tag" then .tag
  else if c.name = "Button" then .button
  else if c.name = "CaseStudyDetail" then .caseStudyDetail
  else if c.name = "Playground" then .playground
  else if c.acceptsStyle then .styled c.name
  else .bare c.name

/-- The description of an application by its routes. -/
def appLines : List String :=
  ["<>",
   "  \x7b/* Simplified App preview for storyboard */\x7d",
   "  <div style=\x7b\x7b padding: '20px', height: '100%', overflow: 'auto' \x7d\x7d>",
   "    <div style=\x7b\x7b border: '1px dashed #ccc', padding: '15px', borderRadius: '4px', marginBottom: '15px' \x7d\x7d>",
   "      <h3 style=\x7b\x7b margin: '0 0 10px 0' \x7d\x7d>App Component</h3>",
   "      <p style=\x7b\x7b margin: '0 0 10px 0' \x7d\x7d>This component contains a Router with the following routes:</p>",
   "      <ul style=\x7b\x7b margin: '0', paddingLeft: '20px' \x7d\x7d>",
   "        <li>/ → AboutPage</li>",
   "        <li>/portfolio → PortfolioPage</li>",
   "        <li>/portfolio/:slug → CaseStudyDetail</li>",
   "        <li>/contact → ContactPage</li>",
   "      </ul>",
   "    </div>",
   "  </div>",
   "</>"]

/-- The lines of a template, before they are indented. -/
def lines : Template → List String
  | app => appLines
  | pageLayout =>
    ["<PageLayout style=\x7b\x7b\x7d\x7d title=\"Sample Title\">",
     "  <div>Sample content</div>",
     "</PageLayout>"]
  | tag => ["<Tag>Tag label</Tag>"]
  | button =>
    ["<Button style=\x7b\x7b\x7d\x7d onClick=\x7b() => \x7b\x7d\x7d>",
     "  Click Me",
     "</Button>"]
  | caseStudyDetail => ["<CaseStudyDetail slug=\"sample-case-study\" />"]
  | playground =>
    ["<Playground style=\x7b\x7b\x7d\x7d>",
     "  Playground Content",
     "</Playground>"]
  | styled name => ["<" ++ name ++ " style=\x7b\x7b\x7d\x7d />"]
  | bare name => ["<" ++ name ++ " />"]
  | verbatim _ => []

/-- The text between the tags of a scene: the lines of the template, indented, or the text as it
was read. -/
def body : Template → String
  | verbatim body => body
  | t => "\n" ++ String.join (t.lines.map fun line => "      " ++ line ++ "\n") ++ "    "

end Template

end SceneBoard
