/-
The parts of the generated program that are the same for every project: its
model, update, view and `main`, and the view that shows any value as text.

They are written in Elm 0.18 and rely on the declarations that a plan decides:
`decodersByName`, `pairedViews`, `knownViews`, `viewDecoded` and
`summarizeDecoded`.
-/
import DecoderBench.Elm.Layout

namespace DecoderBench.Program

/-- The modules that every generated program imports. -/
def baseImports : List String :=
  ["Dict", "Html", "Html.Attributes", "Html.Events", "Json.Decode"]

/-- The view that shows any value as text. -/
def viewAsText : String :=
  Elm.lines
    [ "viewAsText : a -> Html.Html msg"
    , "viewAsText value ="
    , "    Html.text (toString value)"
    ]

/-- The constructors of the program's messages, with their arguments. -/
def messageConstructors : List String :=
  ["ChangeJson String", "SaveChange", "SetCurrentResult String", "IgnoreViewMsg"]

/-- What can happen: the sample is edited, put to use, or one result is looked
at. Messages of embedded views change nothing. -/
def messages : String := Elm.union "Msg" messageConstructors

/-- What the program remembers: the sample in use, the sample being edited, the
decoders, and the decoder that is looked at. -/
def model : String :=
  Elm.lines
    [ "type alias Model ="
    , "    \x7b json : String"
    , "    , tempJson : String"
    , "    , knownDecoders : Dict.Dict String (Json.Decode.Decoder DecodedValue)"
    , "    , visibleResult : Maybe String"
    , "    \x7d"
    ]

/-- How a decoder is run on a sample. -/
def runDecoder : String :=
  Elm.lines
    [ "runDecoder : Json.Decode.Decoder DecodedValue -> String -> Result String DecodedValue"
    , "runDecoder ="
    , "    Json.Decode.decodeString"
    ]

/-- Whether a result is a success. -/
def isOk : String :=
  Elm.lines
    [ "isOk : Result e a -> Bool"
    , "isOk result ="
    , "    case result of"
    , "        Ok _ ->"
    , "            True"
    , ""
    , "        Err _ ->"
    , "            False"
    ]

/-- How many decoders ran and how many succeeded. -/
def viewHowManyRan : String :=
  Elm.lines
    [ "viewHowManyRan : Model -> Int -> Html.Html Msg"
    , "viewHowManyRan model amount ="
    , "    \"Ran \""
    , "        ++ toString (Dict.size model.knownDecoders)"
    , "        ++ \" decoders, \""
    , "        ++ toString amount"
    , "        ++ \" succeeded. \""
    , "        ++ toString (List.length knownViews)"
    , "        ++ \" views are known.\""
    , "        |> Html.text"
    ]

/-- The line of one decoder in the list of all results. -/
def viewSimpleResult : String :=
  Elm.lines
    [ "viewSimpleResult : String -> Result String DecodedValue -> Html.Html Msg"
    , "viewSimpleResult decoderName result ="
    , "    let"
    , "        color ="
    , "            if isOk result then"
    , "                \"green\""
    , "            else"
    , "                \"red\""
    , "    in"
    , "        Html.div"
    , "            [ Html.Events.onClick (SetCurrentResult decoderName) ]"
    , "            [ Html.text decoderName"
    , "            , Html.div"
    , "                [ Html.Attributes.style [ ( \"width\", \"50px\" ), ( \"height\", \"50px\" ), ( \"background-color\", color ) ] ]"
    , "                []"
    , "            ]"
    ]

/-- The sample, to be edited. -/
def viewInputJson : String :=
  Elm.lines
    [ "viewInputJson : Model -> Html.Html Msg"
    , "viewInputJson model ="
    , "    Html.div"
    , "        []"
    , "        [ Html.textarea"
    , "            [ Html.Attributes.style [ ( \"width\", \"500px\" ), ( \"height\", \"500px\" ) ]"
    , "            , Html.Events.onInput ChangeJson"
    , "            , Html.Attributes.value model.tempJson"
    , "            ]"
    , "            []"
    , "        , Html.button [ Html.Events.onClick SaveChange ] [ Html.text \"Test\" ]"
    , "        ]"
    ]

/-- The result that is looked at, shown by its view. -/
def viewSelectedResult : String :=
  Elm.lines
    [ "viewSelectedResult : Model -> Html.Html Msg"
    , "viewSelectedResult model ="
    , "    case model.visibleResult of"
    , "        Nothing ->"
    , "            Html.text \"\""
    , ""
    , "        Just decoderName ->"
    , "            let"
    , "                renderedWith ="
    , "                    Dict.get decoderName pairedViews"
    , "                        |> Maybe.withDefault \"viewAsText\""
    , "            in"
    , "                Html.div"
    , "                    []"
    , "                    [ Html.span [] [ Html.text (\"The decoder known as \" ++ decoderName ++ \" produced the following value:\") ]"
    , "                    , case Dict.get decoderName model.knownDecoders of"
    , "                        Just foundDecoder ->"
    , "                            case runDecoder foundDecoder model.json of"
    , "                                Ok decoded ->"
    , "                                    Html.div"
    , "                                        []"
    , "                                        [ Html.p [] [ Html.text (summarizeDecoded decoded) ]"
    , "                                        , Html.p [] [ Html.text (\"Rendered with \" ++ renderedWith ++ \":\") ]"
    , "                                        , viewDecoded decoded"
    , "                                        ]"
    , ""
    , "                                Err error ->"
    , "                                    Html.p [] [ Html.text error ]"
    , ""
    , "                        Nothing ->"
    , "                            Html.text \"\""
    , "                    ]"
    ]

/-- The page: the sample, the counts, the result that is looked at, and below them
all results, successes first. -/
def view : String :=
  Elm.lines
    [ "view : Model -> Html.Html Msg"
    , "view model ="
    , "    let"
    , "        decoderResults ="
    , "            Dict.toList model.knownDecoders"
    , "                |> List.map (\\( name, decoder ) -> ( name, runDecoder decoder model.json ))"
    , ""
    , "        sortedBySuccess ="
    , "            List.sortBy"
    , "                (\\( _, result ) ->"
    , "                    if isOk result then"
    , "                        0"
    , "                    else"
    , "                        1"
    , "                )"
    , "                decoderResults"
    , ""
    , "        successfulRuns ="
    , "            List.filter (\\( _, result ) -> isOk result) decoderResults"
    , "                |> List.length"
    , "    in"
    , "        Html.div"
    , "            []"
    , "            [ Html.div [] [ viewInputJson model, viewHowManyRan model successfulRuns, viewSelectedResult model ]"
    , "            , Html.div [] (List.map (\\( name, result ) -> viewSimpleResult name result) sortedBySuccess)"
    , "            ]"
    ]

/-- What each message does. -/
def update : String :=
  Elm.lines
    [ "update : Msg -> Model -> ( Model, Cmd Msg )"
    , "update msg model ="
    , "    case msg of"
    , "        SaveChange ->"
    , "            ( \x7b model | json = model.tempJson \x7d, Cmd.none )"
    , ""
    , "        ChangeJson newJson ->"
    , "            ( \x7b model | tempJson = newJson, visibleResult = Nothing \x7d, Cmd.none )"
    , ""
    , "        SetCurrentResult decoderName ->"
    , "            ( \x7b model | visibleResult = Just decoderName \x7d, Cmd.none )"
    , ""
    , "        IgnoreViewMsg ->"
    , "            ( model, Cmd.none )"
    ]

/-- The program itself, which starts with an empty sample. -/
def entryPoint : String :=
  Elm.lines
    [ "main : Program Never Model Msg"
    , "main ="
    , "    Html.program"
    , "        \x7b init = ( \x7b json = \"\", tempJson = \"\", knownDecoders = decodersByName, visibleResult = Nothing \x7d, Cmd.none )"
    , "        , update = update"
    , "        , view = view"
    , "        , subscriptions = \\_ -> Sub.none"
    , "        \x7d"
    ]

/-- The interactive program, from its messages to its entry point. -/
def interactive : String :=
  "\n\n\n".intercalate
    [messages, model, runDecoder, isOk, viewHowManyRan, viewSimpleResult,
      viewInputJson, viewSelectedResult, view, update, entryPoint]

end DecoderBench.Program
